import ModelSync.Proofs.Subscription.Moves
/-!
What an operation holds in each phase of a run, whatever the interleaving.

The phase alone determines whether the operation still holds its candidates,
holds the handle of its loop, has accepted an acknowledgment, and has been
canceled. It also determines where the loop can stand, what the subscriber
has been sent, usage failures aside, and how many acknowledgments the loop
consumed and subscriptions it released (`Operation.Stage`). These facts hold
initially and every move keeps them (`Session.Coherent.move`); the claims about
the lifecycle, the delivered events and the releases are read off them.
-/
namespace ModelSync

/-- A usage failure: a misuse reported to the subscriber, outside the lifecycle. -/
def SubscriptionEvent.isUsage : SubscriptionEvent → Bool
  | .error (.usage _) => true
  | _ => false

/-- The events a subscriber sees, usage failures aside. -/
def visible (events : List SubscriptionEvent) : List SubscriptionEvent :=
  events.filter fun e => !e.isUsage

/-- A failure that ends a subscription before it starts. -/
def SubscriptionError.EndsStart : SubscriptionError → Prop
  | .candidateSource _ | .decoration _ | .endpoint _ | .authExhausted => True
  | _ => False

/-- The acknowledgment of a subscription followed by its items. -/
def Served (id : String) (events : List SubscriptionEvent) : Prop :=
  ∃ items : List Response, events = .started id :: items.map .next

/-- A served subscription ended by one last event. -/
def ServedThen (id : String) (last : SubscriptionEvent) (events : List SubscriptionEvent) : Prop :=
  ∃ served, Served id served ∧ events = served ++ [last]

/-- Where the loop of a starting operation stands, given the acknowledgments it
consumed: before any, or holding the one it read. A loop about to choose again
after an attempt has a candidate left to choose. -/
def LoopPoint.Trying : LoopPoint → List String → Prop
  | .announcing _, acks => acks = []
  | .choosing cursor attempts, acks => acks = [] ∧ (attempts = 0 ∨ cursor.hasNext = true)
  | .awaitingStart a, acks => acks = [] ∧ a.hasNext = a.cursor.hasNext
  | .activating _ id, acks => acks = [id]
  | _, _ => False

/-- Where the loop of an operation canceled while starting stands: where it
stood while starting, or draining its last attempt. -/
def LoopPoint.Winding (point : LoopPoint) (acks : List String) : Prop :=
  point.Trying acks ∨ ∃ n deadline expired, point = .draining n deadline expired ∧ acks = []

/-- A loop winding down from a point other than a drain stands where a
starting loop may stand. -/
theorem LoopPoint.Winding.trying {point : LoopPoint} {acks : List String} (h : point.Winding acks)
    (notDraining : ∀ n deadline expired, point ≠ .draining n deadline expired) : point.Trying acks := by
  rcases h with trying | ⟨n, deadline, expired, draining, -⟩
  · exact trying
  · exact absurd draining (notDraining n deadline expired)

@[simp] theorem visible_nil : visible [] = [] := rfl

@[simp] theorem visible_append (l l' : List SubscriptionEvent) :
    visible (l ++ l') = visible l ++ visible l' := List.filter_append ..

@[simp] theorem visible_singleton (e : SubscriptionEvent) :
    visible [e] = if e.isUsage then [] else [e] := by
  cases h : e.isUsage <;> simp [visible, h]

theorem isUsage_of_endsStart {e : SubscriptionError} (h : e.EndsStart) :
    (SubscriptionEvent.error e).isUsage = false := by
  cases e <;> simp_all [SubscriptionError.EndsStart, SubscriptionEvent.isUsage]

theorem served_started (id : String) : Served id [.started id] := ⟨[], rfl⟩

theorem Served.next {id : String} {events : List SubscriptionEvent} (h : Served id events)
    (r : Response) : Served id (events ++ [.next r]) := by
  obtain ⟨items, rfl⟩ := h
  exact ⟨items ++ [r], by simp⟩

theorem Served.then {id : String} {events : List SubscriptionEvent} (h : Served id events)
    (last : SubscriptionEvent) : ServedThen id last (events ++ [last]) :=
  ⟨events, h, rfl⟩

namespace Operation

/-- What an operation holds in its phase: where its loop stands, what the
subscriber has seen, and the acknowledgments its loop consumed and the
subscriptions it released so far. -/
def Stage (op : Operation) (acks releases : List String) : Prop :=
  match op.phase with
  | .idle => op.task = .none ∧ visible op.events = [] ∧ acks = [] ∧ releases = []
  | .starting =>
    (∃ point, op.task = .running point ∧ point.Trying acks) ∧ visible op.events = [] ∧
      releases = []
  | .active id =>
    (∃ n, op.task = .running (.forwarding n)) ∧ Served id (visible op.events) ∧ acks = [id] ∧
      releases = []
  | .completed id =>
    op.task = .none ∧ ServedThen id .completed (visible op.events) ∧ acks = [id] ∧ releases = []
  | .failed none =>
    op.task = .none ∧ (∃ e, e.EndsStart ∧ visible op.events = [.error e]) ∧ acks = [] ∧
      releases = []
  | .failed (some id) =>
    op.task = .none ∧ acks = [id] ∧
      ((∃ e, ServedThen id (.error (.endpoint e)) (visible op.events)) ∧ releases = [] ∨
        (∃ r, ServedThen id (.error (.decode r)) (visible op.events)) ∧ releases = [id])
  | .canceled none =>
    visible op.events = [] ∧
      (op.task = .none ∧ releases = acks ∧ acks.length ≤ 1 ∨
        (∃ point, op.task = .running point ∧ point.Winding acks) ∧ releases = [])
  | .canceled (some id) =>
    (op.task = .none ∨ ∃ n, op.task = .aborting (.forwarding n)) ∧
      (Served id (visible op.events) ∨ ∃ e, ServedThen id (.error (.endpoint e)) (visible op.events)) ∧
      acks = [id] ∧ releases = [id]

/-- An operation whose parts agree with its phase. -/
structure Coherent (op : Operation) (acks releases : List String) : Prop where
  /-- The candidates are held until the operation leaves `idle`. -/
  candidates : op.candidates.isSome ↔ op.phase = .idle
  /-- The loop's abort handle is held while starting or active. -/
  loopHandle : op.loopHandle ↔ op.phase.state = .starting ∨ op.phase.state = .active
  /-- The started flag is set exactly when the phase carries an id. -/
  acknowledged : op.acknowledged ↔ op.phase.subscriptionId.isSome
  /-- The cancellation token is set exactly when the phase is `canceled`. -/
  canceled : op.canceled ↔ op.phase.state = .canceled
  stage : op.Stage acks releases

/-! ## How each change of an operation keeps it coherent -/

section Changes

variable {op : Operation} {acks releases : List String}

theorem stage_idle (phase : op.phase = .idle) :
    op.Stage acks releases ↔ op.task = .none ∧ visible op.events = [] ∧ acks = [] ∧ releases = [] := by
  rw [Stage, phase]

theorem stage_starting (phase : op.phase = .starting) :
    op.Stage acks releases ↔
      (∃ point, op.task = .running point ∧ point.Trying acks) ∧ visible op.events = [] ∧
        releases = [] := by
  rw [Stage, phase]

theorem stage_active {id : String} (phase : op.phase = .active id) :
    op.Stage acks releases ↔
      (∃ n, op.task = .running (.forwarding n)) ∧ Served id (visible op.events) ∧ acks = [id] ∧
        releases = [] := by
  rw [Stage, phase]

theorem stage_completed {id : String} (phase : op.phase = .completed id) :
    op.Stage acks releases ↔
      op.task = .none ∧ ServedThen id .completed (visible op.events) ∧ acks = [id] ∧
        releases = [] := by
  rw [Stage, phase]

theorem stage_failed_none (phase : op.phase = .failed none) :
    op.Stage acks releases ↔
      op.task = .none ∧ (∃ e, e.EndsStart ∧ visible op.events = [.error e]) ∧ acks = [] ∧
        releases = [] := by
  rw [Stage, phase]

theorem stage_failed_some {id : String} (phase : op.phase = .failed (some id)) :
    op.Stage acks releases ↔
      op.task = .none ∧ acks = [id] ∧
        ((∃ e, ServedThen id (.error (.endpoint e)) (visible op.events)) ∧ releases = [] ∨
          (∃ r, ServedThen id (.error (.decode r)) (visible op.events)) ∧ releases = [id]) := by
  rw [Stage, phase]

theorem stage_canceled_none (phase : op.phase = .canceled none) :
    op.Stage acks releases ↔
      visible op.events = [] ∧
        (op.task = .none ∧ releases = acks ∧ acks.length ≤ 1 ∨
          (∃ point, op.task = .running point ∧ point.Winding acks) ∧ releases = []) := by
  rw [Stage, phase]

theorem stage_canceled_some {id : String} (phase : op.phase = .canceled (some id)) :
    op.Stage acks releases ↔
      (op.task = .none ∨ ∃ n, op.task = .aborting (.forwarding n)) ∧
        (Served id (visible op.events) ∨
          ∃ e, ServedThen id (.error (.endpoint e)) (visible op.events)) ∧
        acks = [id] ∧ releases = [id] := by
  rw [Stage, phase]

/-- Where a running loop stands: trying candidates while the operation starts,
winding down after it was canceled while starting, or forwarding while it is
active. -/
theorem Coherent.running {point : LoopPoint} (h : op.Coherent acks releases)
    (task : op.task = .running point) :
    op.phase = .starting ∧ point.Trying acks ∧ releases = [] ∨
      op.phase = .canceled none ∧ point.Winding acks ∧ releases = [] ∨
      ∃ id n, op.phase = .active id ∧ point = .forwarding n ∧ acks = [id] ∧ releases = [] := by
  have stage := h.stage
  cases phase : op.phase with
  | idle => simp [(stage_idle phase).1 stage |>.1] at task
  | starting =>
    obtain ⟨⟨point₀, task₀, trying⟩, -, released⟩ := (stage_starting phase).1 stage
    rw [task, Task.running.injEq] at task₀
    subst task₀
    exact .inl ⟨rfl, trying, released⟩
  | active id =>
    obtain ⟨⟨n, task₀⟩, -, acked, released⟩ := (stage_active phase).1 stage
    rw [task, Task.running.injEq] at task₀
    exact .inr (.inr ⟨id, n, rfl, task₀, acked, released⟩)
  | completed id => simp [(stage_completed phase).1 stage |>.1] at task
  | failed id =>
    cases id with
    | none => simp [(stage_failed_none phase).1 stage |>.1] at task
    | some id => simp [(stage_failed_some phase).1 stage |>.1] at task
  | canceled id =>
    cases id with
    | none =>
      obtain ⟨-, ⟨ended, -⟩ | ⟨⟨point₀, task₀, wound⟩, released⟩⟩ :=
        (stage_canceled_none phase).1 stage
      · simp [ended] at task
      · rw [task, Task.running.injEq] at task₀
        subst task₀
        exact .inr (.inl ⟨rfl, wound, released⟩)
    | some id =>
      obtain ⟨ended | ⟨n, aborting⟩, -⟩ := (stage_canceled_some phase).1 stage <;> simp_all

/-- A loop of a starting operation, or of one canceled while starting, moves
to another point; its acknowledgments may grow as the points allow. -/
theorem Coherent.retask {point point' : LoopPoint} {acks' : List String}
    (h : op.Coherent acks releases) (task : op.task = .running point)
    (pending : op.phase = .starting ∨ op.phase = .canceled none)
    (trying : point.Trying acks → point'.Trying acks')
    (winding : point.Winding acks → point'.Winding acks') :
    { op with task := .running point' }.Coherent acks' releases := by
  refine ⟨h.candidates, h.loopHandle, h.acknowledged, h.canceled, ?_⟩
  rcases pending with phase | phase
  · obtain ⟨⟨point₀, task₀, tried⟩, silent, released⟩ := (stage_starting phase).1 h.stage
    rw [task, Task.running.injEq] at task₀
    subst task₀
    exact (stage_starting (by exact phase)).2 ⟨⟨point', rfl, trying tried⟩, silent, released⟩
  · obtain ⟨silent, ⟨ended, -⟩ | ⟨⟨point₀, task₀, wound⟩, released⟩⟩ :=
      (stage_canceled_none phase).1 h.stage
    · rw [task] at ended
      cases ended
    · rw [task, Task.running.injEq] at task₀
      subst task₀
      exact (stage_canceled_none (by exact phase)).2
        ⟨silent, .inr ⟨⟨point', rfl, winding wound⟩, released⟩⟩

/-- The loop of an operation canceled while starting ends, having released
what it consumed. -/
theorem Coherent.wound (h : op.Coherent acks releases) (phase : op.phase = .canceled none)
    (consumed : List String) (one : consumed.length ≤ 1) :
    { op with task := .none }.Coherent consumed consumed := by
  refine ⟨h.candidates, h.loopHandle, h.acknowledged, h.canceled, ?_⟩
  exact (stage_canceled_none (by exact phase)).2
    ⟨((stage_canceled_none phase).1 h.stage).1, .inl ⟨rfl, rfl, one⟩⟩

/-- A starting operation that consumed no acknowledgment fails. -/
theorem Coherent.fail (h : op.Coherent [] []) (phase : op.phase = .starting)
    (e : SubscriptionError) (ends : e.EndsStart) :
    { op with phase := .failed none, loopHandle := false,
              events := op.events ++ [SubscriptionEvent.error e], task := .none }.Coherent [] [] := by
  have silent := ((stage_starting phase).1 h.stage).2.1
  refine ⟨?_, by simp [Phase.state], ?_, ?_, ?_⟩
  · simpa [phase] using h.candidates
  · simpa [phase, Phase.subscriptionId] using h.acknowledged
  · simpa [phase, Phase.state] using h.canceled
  · refine (stage_failed_none rfl).2 ⟨rfl, ⟨e, ends, ?_⟩, rfl, rfl⟩
    simp [silent, isUsage_of_endsStart ends]

/-- A starting operation accepts the acknowledgment its loop read. -/
theorem Coherent.activate {id : String} (h : op.Coherent [id] []) (phase : op.phase = .starting)
    (n : Nat) :
    { op with phase := .active id, acknowledged := true,
              events := op.events ++ [SubscriptionEvent.started id],
              task := .running (.forwarding n) }.Coherent [id] [] := by
  have silent := ((stage_starting phase).1 h.stage).2.1
  refine ⟨?_, ?_, by simp [Phase.subscriptionId], ?_, ?_⟩
  · simpa [phase] using h.candidates
  · simpa [phase, Phase.state] using h.loopHandle
  · simpa [phase, Phase.state] using h.canceled
  · refine (stage_active rfl).2 ⟨⟨n, rfl⟩, ?_, rfl, rfl⟩
    simpa [silent, SubscriptionEvent.isUsage] using served_started id

/-- An active operation delivers an item. -/
theorem Coherent.deliver {id : String} (h : op.Coherent [id] []) (phase : op.phase = .active id)
    (r : Response) (n : Nat) :
    { op with events := op.events ++ [SubscriptionEvent.next r],
              task := .running (.forwarding n) }.Coherent [id] [] := by
  have served := ((stage_active phase).1 h.stage).2.1
  refine ⟨h.candidates, h.loopHandle, h.acknowledged, h.canceled, ?_⟩
  refine (stage_active (by exact phase)).2 ⟨⟨n, rfl⟩, ?_, rfl, rfl⟩
  simpa [SubscriptionEvent.isUsage] using served.next r

/-- An active operation ends with the endpoint's failure. -/
theorem Coherent.terminate {id : String} (h : op.Coherent [id] []) (phase : op.phase = .active id)
    (e : EndpointError) :
    { op with phase := .failed (some id), loopHandle := false,
              events := op.events ++ [SubscriptionEvent.error (.endpoint e)],
              task := .none }.Coherent [id] [] := by
  have served := ((stage_active phase).1 h.stage).2.1
  refine ⟨?_, by simp [Phase.state], ?_, ?_, ?_⟩
  · simpa [phase] using h.candidates
  · simpa [phase, Phase.subscriptionId] using h.acknowledged
  · simpa [phase, Phase.state] using h.canceled
  · refine (stage_failed_some rfl).2 ⟨rfl, rfl, .inl ⟨⟨e, ?_⟩, rfl⟩⟩
    simpa [SubscriptionEvent.isUsage] using served.then (.error (.endpoint e))

/-- An active operation whose item cannot be decoded fails and releases its
subscription. -/
theorem Coherent.undecodable {id : String} (h : op.Coherent [id] []) (phase : op.phase = .active id)
    (reason : String) :
    { op with phase := .failed (some id), loopHandle := false,
              events := op.events ++ [SubscriptionEvent.error (.decode reason)],
              task := .none }.Coherent [id] [id] := by
  have served := ((stage_active phase).1 h.stage).2.1
  refine ⟨?_, by simp [Phase.state], ?_, ?_, ?_⟩
  · simpa [phase] using h.candidates
  · simpa [phase, Phase.subscriptionId] using h.acknowledged
  · simpa [phase, Phase.state] using h.canceled
  · refine (stage_failed_some rfl).2 ⟨rfl, rfl, .inr ⟨⟨reason, ?_⟩, rfl⟩⟩
    simpa [SubscriptionEvent.isUsage] using served.then (.error (.decode reason))

/-- An active operation completes. -/
theorem Coherent.complete {id : String} (h : op.Coherent [id] []) (phase : op.phase = .active id) :
    { op with phase := .completed id, loopHandle := false,
              events := op.events ++ [SubscriptionEvent.completed],
              task := .none }.Coherent [id] [] := by
  have served := ((stage_active phase).1 h.stage).2.1
  refine ⟨?_, by simp [Phase.state], ?_, ?_, ?_⟩
  · simpa [phase] using h.candidates
  · simpa [phase, Phase.subscriptionId] using h.acknowledged
  · simpa [phase, Phase.state] using h.canceled
  · refine (stage_completed rfl).2 ⟨rfl, ?_, rfl, rfl⟩
    simpa [SubscriptionEvent.isUsage] using served.then .completed

/-- An idle operation starts: its candidates go to a loop that first
announces the request. -/
theorem Coherent.start (h : op.Coherent acks releases) (phase : op.phase = .idle)
    (cursor : CandidateCursor) :
    { op with phase := .starting, candidates := none, task := .running (.announcing cursor),
              loopHandle := true }.Coherent acks releases := by
  obtain ⟨-, silent, noAcks, noReleases⟩ := (stage_idle phase).1 h.stage
  refine ⟨by simp, by simp [Phase.state], ?_, ?_, ?_⟩
  · simpa [phase, Phase.subscriptionId] using h.acknowledged
  · simpa [phase, Phase.state] using h.canceled
  · exact (stage_starting rfl).2 ⟨⟨_, rfl, noAcks⟩, silent, noReleases⟩

/-- A refused start gives up the candidates, which only an idle operation
holds, and reports a usage failure. -/
theorem Coherent.refuseStart (h : op.Coherent acks releases) (phase : op.phase ≠ .idle)
    (reason : String) :
    { op with candidates := none,
              events := op.events ++ [SubscriptionEvent.error (.usage reason)] }.Coherent acks releases := by
  refine ⟨by simpa using phase, h.loopHandle, h.acknowledged, h.canceled, ?_⟩
  have stage := h.stage
  unfold Stage at stage ⊢
  simpa [SubscriptionEvent.isUsage] using stage

/-- An idle or starting operation is canceled; a starting loop winds down. -/
theorem Coherent.cancelPending (h : op.Coherent acks releases)
    (pending : op.phase = .idle ∨ op.phase = .starting) :
    { op with phase := .canceled none, loopHandle := false, candidates := none,
              canceled := true }.Coherent acks releases := by
  refine ⟨by simp, by simp [Phase.state], ?_, by simp [Phase.state], ?_⟩
  · rcases pending with phase | phase <;> simpa [phase, Phase.subscriptionId] using h.acknowledged
  · rcases pending with phase | phase
    · obtain ⟨idle, silent, noAcks, noReleases⟩ := (stage_idle phase).1 h.stage
      refine (stage_canceled_none rfl).2 ⟨silent, .inl ⟨idle, ?_, ?_⟩⟩
      · rw [noAcks, noReleases]
      · simp [noAcks]
    · obtain ⟨⟨point, task, trying⟩, silent, released⟩ := (stage_starting phase).1 h.stage
      exact (stage_canceled_none rfl).2 ⟨silent, .inr ⟨⟨point, task, .inl trying⟩, released⟩⟩

/-- An active operation is canceled: its loop is aborted and its subscription
released, a failed release being reported. -/
theorem Coherent.cancelActive {id : String} (h : op.Coherent [id] []) (phase : op.phase = .active id)
    (n : Nat) (failures : List SubscriptionEvent)
    (reported : failures = [] ∨ ∃ e, failures = [.error (.endpoint e)]) :
    { op with phase := .canceled (some id), task := .aborting (.forwarding n), loopHandle := false,
              canceled := true, events := op.events ++ failures }.Coherent [id] [id] := by
  have served := ((stage_active phase).1 h.stage).2.1
  refine ⟨?_, by simp [Phase.state], ?_, by simp [Phase.state], ?_⟩
  · simpa [phase] using h.candidates
  · simpa [phase, Phase.subscriptionId] using h.acknowledged
  · refine (stage_canceled_some rfl).2 ⟨.inr ⟨n, rfl⟩, ?_, rfl, rfl⟩
    rcases reported with rfl | ⟨e, rfl⟩
    · exact .inl (by simpa using served)
    · exact .inr ⟨e, by simpa [SubscriptionEvent.isUsage] using served.then (.error (.endpoint e))⟩

/-- The aborted loop of a canceled operation is dropped. -/
theorem Coherent.dropAborted {id : String} (h : op.Coherent acks releases)
    (phase : op.phase = .canceled (some id)) : { op with task := .none }.Coherent acks releases := by
  refine ⟨h.candidates, h.loopHandle, h.acknowledged, h.canceled, ?_⟩
  exact (stage_canceled_some (by exact phase)).2 ⟨.inl rfl, ((stage_canceled_some phase).1 h.stage).2⟩

/-- A running loop stays where it is. -/
theorem Coherent.stay {t : Task} (h : op.Coherent acks releases) (task : op.task = t) :
    { op with task := t }.Coherent acks releases := by
  subst task
  exact h

/-- The loop of an operation canceled while starting drains its last attempt. -/
theorem Coherent.drain {point : LoopPoint} (h : op.Coherent [] releases)
    (task : op.task = .running point) (phase : op.phase = .canceled none) (n deadline : Nat)
    (expired : Bool) : { op with task := .running (.draining n deadline expired) }.Coherent [] releases := by
  refine ⟨h.candidates, h.loopHandle, h.acknowledged, h.canceled, ?_⟩
  obtain ⟨silent, ⟨ended, -⟩ | ⟨-, released⟩⟩ := (stage_canceled_none phase).1 h.stage
  · rw [task] at ended
    cases ended
  · exact (stage_canceled_none (by exact phase)).2
      ⟨silent, .inr ⟨⟨_, rfl, .inr ⟨n, deadline, expired, rfl, rfl⟩⟩, released⟩⟩

/-- A running loop that is not forwarding belongs to an operation that is
starting or was canceled while starting. -/
theorem Coherent.pending {point : LoopPoint} (h : op.Coherent acks releases)
    (task : op.task = .running point) (notForwarding : ∀ n, point ≠ .forwarding n) :
    op.phase = .starting ∨ op.phase = .canceled none := by
  rcases h.running task with ⟨phase, -⟩ | ⟨phase, -⟩ | ⟨_, n, _, forwarding, -⟩
  · exact .inl phase
  · exact .inr phase
  · exact absurd forwarding (notForwarding n)

/-- An aborted loop belongs to an operation canceled while active. -/
theorem Coherent.aborting {point : LoopPoint} (h : op.Coherent acks releases)
    (task : op.task = .aborting point) : ∃ id, op.phase = .canceled (some id) := by
  have stage := h.stage
  cases phase : op.phase with
  | idle => simp [(stage_idle phase).1 stage |>.1] at task
  | starting =>
    obtain ⟨⟨_, running, -⟩, -⟩ := (stage_starting phase).1 stage
    simp [running] at task
  | active id =>
    obtain ⟨⟨_, running⟩, -⟩ := (stage_active phase).1 stage
    simp [running] at task
  | completed id => simp [(stage_completed phase).1 stage |>.1] at task
  | failed id =>
    cases id with
    | none => simp [(stage_failed_none phase).1 stage |>.1] at task
    | some id => simp [(stage_failed_some phase).1 stage |>.1] at task
  | canceled id =>
    cases id with
    | none =>
      obtain ⟨-, ⟨ended, -⟩ | ⟨⟨_, running, -⟩, -⟩⟩ := (stage_canceled_none phase).1 stage
      · simp [ended] at task
      · simp [running] at task
    | some id => exact ⟨id, rfl⟩

/-- An operation as built is coherent, with nothing consumed or released. -/
theorem Fresh.coherent (h : op.Fresh) : op.Coherent [] [] where
  candidates := by simp [h.candidates, h.phase]
  loopHandle := by simp [h.loopHandle, h.phase, Phase.state]
  acknowledged := by simp [h.acknowledged, h.phase, Phase.subscriptionId]
  canceled := by simp [h.canceled, h.phase, Phase.state]
  stage := (stage_idle h.phase).2 ⟨h.task, by simp [h.events], rfl, rfl⟩

end Changes
end Operation

namespace Session

/-- Operation `i` agrees with its phase and with the acknowledgments and
releases recorded for it; nothing is recorded for an operation the session
does not have. -/
def CoherentAt (s : Session) (i : Nat) (acks releases : List String) : Prop :=
  match s.op? i with
  | some op => op.Coherent acks releases
  | none => acks = [] ∧ releases = []

/-- Every operation of the session agrees with its phase. -/
def Coherent (s : Session) (acks releases : Nat → List String) : Prop :=
  ∀ i, s.CoherentAt i (acks i) (releases i)

end Session
end ModelSync
