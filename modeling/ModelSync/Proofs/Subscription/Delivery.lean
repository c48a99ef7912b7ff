import ModelSync.Proofs.Subscription.Invariance
/-!
What an operation sends its subscriber and what it has the endpoint release,
along every run from operations as built.

Both are read off `Operation.Coherent`. The events a subscriber sees, usage
failures aside, always form a `Transcript`. The subscriptions the endpoint
is asked to release are exactly those the moves release
(`Session.released_runMoves`); each operation consumes at most one
acknowledgment, releases at most once and only what it consumed, and once
canceled and done it has released all it consumed.
-/
namespace ModelSync

/-! ## Transcripts -/

/-- An event that ends a served subscription: its completion, a failure of
the endpoint, or an item that cannot be decoded. -/
def SubscriptionEvent.Closes : SubscriptionEvent → Prop
  | .completed | .error (.endpoint _) | .error (.decode _) => True
  | _ => False

/-- The words a subscriber may be sent, usage failures aside: nothing; one
failure that ends the start; or an acknowledgment, then items, then at most
one event that closes the subscription. -/
inductive Transcript : List SubscriptionEvent → Prop
  | silent : Transcript []
  | refused (e : SubscriptionError) : e.EndsStart → Transcript [.error e]
  | served (id : String) (items : List Response) : Transcript (.started id :: items.map .next)
  | closed (id : String) (items : List Response) (last : SubscriptionEvent) :
      last.Closes → Transcript (.started id :: items.map .next ++ [last])

theorem Served.transcript {id : String} {events : List SubscriptionEvent} (h : Served id events) :
    Transcript events := by
  obtain ⟨items, rfl⟩ := h
  exact .served id items

theorem ServedThen.transcript {id : String} {last : SubscriptionEvent} {events : List SubscriptionEvent}
    (h : ServedThen id last events) (closes : last.Closes) : Transcript events := by
  obtain ⟨served, ⟨items, rfl⟩, rfl⟩ := h
  exact .closed id items last closes

/-- What a coherent operation has sent its subscriber is a transcript. -/
theorem Operation.Coherent.transcript {op : Operation} {acks releases : List String}
    (h : op.Coherent acks releases) : Transcript (visible op.events) := by
  have stage := h.stage
  cases phase : op.phase with
  | idle => rw [((Operation.stage_idle phase).1 stage).2.1]; exact .silent
  | starting => rw [((Operation.stage_starting phase).1 stage).2.1]; exact .silent
  | active id => exact ((Operation.stage_active phase).1 stage).2.1.transcript
  | completed id => exact ((Operation.stage_completed phase).1 stage).2.1.transcript trivial
  | failed id =>
    cases id with
    | none =>
      obtain ⟨-, ⟨e, ends, sent⟩, -⟩ := (Operation.stage_failed_none phase).1 stage
      rw [sent]
      exact .refused e ends
    | some id =>
      obtain ⟨-, -, ⟨⟨e, sent⟩, -⟩ | ⟨⟨r, sent⟩, -⟩⟩ := (Operation.stage_failed_some phase).1 stage
      · exact sent.transcript trivial
      · exact sent.transcript trivial
  | canceled id =>
    cases id with
    | none => rw [((Operation.stage_canceled_none phase).1 stage).1]; exact .silent
    | some id =>
      obtain ⟨-, served | ⟨e, sent⟩, -⟩ := (Operation.stage_canceled_some phase).1 stage
      · exact served.transcript
      · exact sent.transcript trivial

namespace Session

/-- Along every run from operations as built, what each operation has sent its
subscriber, usage failures aside, is a transcript: nothing, one failure that
ends the start, or an acknowledgment with its items and at most one closing
event. -/
theorem transcript_of_runMoves {s₀ s : Session} {ms : List Move} (init : s₀.Initial)
    (reached : s₀.runMoves ms = s) {i : Nat} {op : Operation} (hop : s.op? i = some op) :
    Transcript (visible op.events) := by
  subst reached
  have coherent := (init.coherent.runMoves ms) i
  simp only [CoherentAt, hop] at coherent
  exact coherent.transcript

theorem transcript_of_runMoves_started :
    ∃ op, (oneOperation.runMoves [.start 0, .loop 0, .loop 0]).op? 0 = some op ∧
      Transcript (visible op.events) := by
  obtain ⟨op, hop⟩ : ∃ op, (oneOperation.runMoves [.start 0, .loop 0, .loop 0]).op? 0 = some op := ⟨_, rfl⟩
  exact ⟨op, hop, transcript_of_runMoves initial_oneOperation rfl hop⟩

end Session

/-! ## Releases -/

/-- A loop that is trying candidates holds at most the one acknowledgment it read. -/
theorem LoopPoint.Trying.length_le {point : LoopPoint} {acks : List String} (h : point.Trying acks) :
    acks.length ≤ 1 := by
  cases point with
  | announcing => simp [show acks = [] from h]
  | choosing => simp [h.1]
  | awaitingStart => simp [h.1]
  | activating n id => simp [show acks = [id] from h]
  | forwarding => cases h
  | draining => cases h

theorem LoopPoint.Winding.length_le {point : LoopPoint} {acks : List String} (h : point.Winding acks) :
    acks.length ≤ 1 := by
  rcases h with trying | ⟨_, _, _, -, rfl⟩
  · exact trying.length_le
  · simp

namespace Operation

variable {op : Operation} {acks releases : List String}

/-- A coherent operation's loop consumed at most one acknowledgment, and
released either nothing or what it consumed. -/
theorem Coherent.releases_bounded (h : op.Coherent acks releases) :
    acks.length ≤ 1 ∧ (releases = [] ∨ releases = acks) := by
  have stage := h.stage
  cases phase : op.phase with
  | idle =>
    obtain ⟨-, -, rfl, rfl⟩ := (stage_idle phase).1 stage
    simp
  | starting =>
    obtain ⟨⟨_, -, trying⟩, -, rfl⟩ := (stage_starting phase).1 stage
    exact ⟨trying.length_le, .inl rfl⟩
  | active id =>
    obtain ⟨-, -, rfl, rfl⟩ := (stage_active phase).1 stage
    simp
  | completed id =>
    obtain ⟨-, -, rfl, rfl⟩ := (stage_completed phase).1 stage
    simp
  | failed id =>
    cases id with
    | none =>
      obtain ⟨-, -, rfl, rfl⟩ := (stage_failed_none phase).1 stage
      simp
    | some id =>
      obtain ⟨-, rfl, ⟨-, rfl⟩ | ⟨-, rfl⟩⟩ := (stage_failed_some phase).1 stage <;> simp
  | canceled id =>
    cases id with
    | none =>
      obtain ⟨-, ⟨-, rfl, one⟩ | ⟨⟨_, -, wound⟩, rfl⟩⟩ := (stage_canceled_none phase).1 stage
      · exact ⟨one, .inr rfl⟩
      · exact ⟨wound.length_le, .inl rfl⟩
    | some id =>
      obtain ⟨-, -, rfl, rfl⟩ := (stage_canceled_some phase).1 stage
      simp

/-- A canceled operation whose loop is no longer running has released every
acknowledgment its loop consumed. -/
theorem Coherent.released_all (h : op.Coherent acks releases) (canceled : op.phase.state = .canceled)
    (done : ∀ point, op.task ≠ .running point) : releases = acks := by
  cases phase : op.phase with
  | canceled id =>
    cases id with
    | none =>
      obtain ⟨-, ⟨-, same, -⟩ | ⟨⟨point, running, -⟩, -⟩⟩ := (stage_canceled_none phase).1 h.stage
      · exact same
      · exact absurd running (done point)
    | some id =>
      obtain ⟨-, -, rfl, rfl⟩ := (stage_canceled_some phase).1 h.stage
      rfl
  | _ => simp [phase, Phase.state] at canceled

end Operation

namespace Session

variable {s : Session} {i : Nat} {op : Operation} {acks releases : List String}

@[simp] theorem endpoint_fail (e : SubscriptionError) : (s.fail i e).endpoint = s.endpoint := by
  unfold fail; split <;> simp

@[simp] theorem endpoint_terminateFailed (id : String) (e : EndpointError) :
    (s.terminateFailed i id e).endpoint = s.endpoint := by
  simp [terminateFailed]

/-- A loop step has the endpoint release what `releaseTaken` says. Which
branch releases depends on the phase the invariant pins the point to: an
acknowledgment is turned down only after a cancellation, and a drain only
runs for an operation canceled while starting. -/
theorem released_stepLoop (hop : s.op? i = some op) {point : LoopPoint}
    (task : op.task = .running point) (h : op.Coherent acks releases) :
    (s.stepLoop i point).1.endpoint.released = s.endpoint.released ++ (s.releaseTaken i).toList := by
  cases point with
  | announcing cursor => simp [stepLoop, releaseTaken, taskOf, hop, task]
  | choosing cursor attempts =>
    simp only [releaseTaken, taskOf, stepLoop, hop, task, choose]
    repeat' split
    all_goals simp
  | awaitingStart a =>
    simp only [releaseTaken, taskOf, stepLoop, hop, task, reject]
    repeat' split
    all_goals simp
  | activating n id =>
    rcases h.running task with ⟨phase, -, -⟩ | ⟨phase, -, -⟩ | ⟨_, _, _, point, -⟩
    · -- accepted while starting: nothing is released
      have fresh : op.acknowledged = false := by
        simpa [phase, Phase.subscriptionId] using h.acknowledged
      simp [releaseTaken, taskOf, phaseOf, stepLoop, activate, hop, task, phase, fresh]
    · -- turned down after a cancellation: the acknowledgment is released
      simp [releaseTaken, taskOf, phaseOf, stepLoop, activate, hop, task, phase]
    · cases point
  | forwarding n =>
    obtain ⟨id, phase⟩ : ∃ id, op.phase = .active id := by
      rcases h.running task with ⟨_, trying, -⟩ | ⟨_, trying | ⟨_, _, _, point, -⟩, -⟩ |
        ⟨id, _, phase, -⟩
      · cases trying
      · cases trying
      · cases point
      · exact ⟨id, phase⟩
    simp only [releaseTaken, taskOf, phaseOf, stepLoop, hop, task, phase, Phase.activeId]
    have same := released_receive s n
    generalize s.receive n = r at same ⊢
    obtain ⟨s', received⟩ := r
    dsimp only at same ⊢
    rcases received with (_ | payload | e | _) | _ | _
    · simp [forwardEvent, same]
    · cases decoded : Response.ofJson payload <;> simp [forwardEvent, decoded, same]
    · simp [forwardEvent, same]
    · simp [forwardEvent, same]
    · simp [same]
    · simp [same]
  | draining n deadline expired =>
    have phase : op.phase = .canceled none := by
      rcases h.running task with ⟨_, trying, -⟩ | ⟨phase, -⟩ | ⟨_, _, _, point, -⟩
      · cases trying
      · exact phase
      · cases point
    simp only [releaseTaken, taskOf, phaseOf, startedOn, stepLoop, hop, task, phase]
    have same := released_receive s n
    generalize s.receive n = r at same ⊢
    obtain ⟨s', received⟩ := r
    dsimp only at same ⊢
    rcases received with (_ | _ | _ | _) | _ | _ <;> simp [same]
    split <;> simp [same]

theorem released_loopMove (h : s.CoherentAt i acks releases) :
    (s.loopMove i).endpoint.released = s.endpoint.released ++ (s.releaseTaken i).toList := by
  cases hop : s.op? i with
  | none => simp [loopMove, releaseTaken, taskOf, hop]
  | some op =>
    replace h : op.Coherent acks releases := by simpa [CoherentAt, hop] using h
    cases task : op.task with
    | running point => simpa [loopMove_running hop task] using released_stepLoop hop task h
    | aborting point => simp [loopMove, releaseTaken, taskOf, hop, task]
    | none => simp [loopMove, releaseTaken, taskOf, hop, task]

@[simp] theorem endpoint_start : (s.start i).endpoint = s.endpoint := by
  unfold start
  split
  · rfl
  · split <;> simp

theorem released_cancel :
    (s.cancel i).endpoint.released = s.endpoint.released ++ (s.phaseOf i).activeId.toList := by
  unfold cancel
  cases hop : s.op? i with
  | none => simp [phaseOf, hop, Phase.activeId]
  | some op =>
    cases phase : op.phase with
    | active id =>
      -- the release may fail; a failure is only reported
      simp only [phaseOf, hop, phase, Phase.activeId]
      split <;> simp [ScriptedEndpoint.release]
    | _ => simp [phaseOf, hop, phase, Phase.activeId]

@[simp] theorem released_dropMove : (s.dropMove i).endpoint.released = s.endpoint.released := by
  unfold dropMove
  split
  · rename_i point aborted
    cases hop : s.op? i with
    | none => simp [taskOf, hop] at aborted
    | some op =>
      have task : op.task = .aborting point := by simpa [taskOf, hop] using aborted
      simp only [runTask, hop, task]
      split <;> simp
  · rfl

@[simp] theorem released_expireMove : (s.expireMove i).endpoint.released = s.endpoint.released := by
  unfold expireMove; split <;> simp

@[simp] theorem released_timeoutMove : (s.timeoutMove i).endpoint.released = s.endpoint.released := by
  unfold timeoutMove; split <;> simp

section Runs

variable {A R : Nat → List String}

/-- The endpoint is asked to release exactly what the move releases. -/
theorem released_move (h : s.Coherent A R) (m : Move) :
    (s.move m).endpoint.released = s.endpoint.released ++ (s.releaseOf m).toList := by
  cases m with
  | start i => simp [move, releaseOf, releaseIn, Move.owner]
  | cancel i => simpa [move, releaseOf, releaseIn, Move.owner] using released_cancel
  | loop i => simpa [move, releaseOf, releaseIn, Move.owner] using released_loopMove (h i)
  | drop i => simp [move, releaseOf, releaseIn, Move.owner]
  | expire i => simp [move, releaseOf, releaseIn, Move.owner]
  | timeout i => simp [move, releaseOf, releaseIn, Move.owner]
  | send n event => simp [move, releaseOf, Move.owner]
  | close n => simp [move, releaseOf, Move.owner]

/-- Along a run of coherent sessions, the endpoint is asked to release exactly
what the moves release, in order. -/
theorem released_runMoves (h : s.Coherent A R) (ms : List Move) :
    (s.runMoves ms).endpoint.released = s.endpoint.released ++ along releaseOf s ms := by
  induction ms generalizing s A R with
  | nil => simp
  | cons m ms ih => simp [ih (h.move m), released_move h m]

end Runs

/-- Along every run from operations as built, the endpoint is asked to
release exactly what the moves release, in order: the active subscription of
an operation canceled while active or whose item cannot be decoded, and an
acknowledgment read after a cancellation, while accepting it or while
draining the last attempt. Each operation consumes at most one
acknowledgment, releases nothing or exactly what it consumed, so at most once
and only that id; and once canceled and done it has released all it
consumed. -/
theorem releases_of_runMoves {s₀ : Session} (init : s₀.Initial) (ms : List Move) :
    (s₀.runMoves ms).endpoint.released = s₀.endpoint.released ++ along releaseOf s₀ ms ∧
    ∀ i, (along (ackIn · i) s₀ ms).length ≤ 1 ∧
      (along (releaseIn · i) s₀ ms = [] ∨ along (releaseIn · i) s₀ ms = along (ackIn · i) s₀ ms) ∧
      ∀ op, (s₀.runMoves ms).op? i = some op → op.phase.state = .canceled →
        (∀ point, op.task ≠ .running point) →
        along (releaseIn · i) s₀ ms = along (ackIn · i) s₀ ms := by
  have coherent := init.coherent.runMoves ms
  refine ⟨released_runMoves init.coherent ms, fun i => ?_⟩
  have at_i := coherent i
  simp only [List.nil_append] at at_i
  cases hop : (s₀.runMoves ms).op? i with
  | none =>
    simp only [CoherentAt, hop] at at_i
    obtain ⟨noAcks, noReleases⟩ := at_i
    simp [noAcks, noReleases]
  | some op =>
    simp only [CoherentAt, hop] at at_i
    obtain ⟨one, released⟩ := at_i.releases_bounded
    refine ⟨one, released, ?_⟩
    rintro op' same canceled done
    cases same
    exact at_i.released_all canceled done

theorem releases_of_runMoves_single :
    oneOperation.Initial ∧
    (oneOperation.runMoves [.start 0, .cancel 0]).endpoint.released =
      oneOperation.endpoint.released ++ along releaseOf oneOperation [.start 0, .cancel 0] :=
  ⟨initial_oneOperation, (releases_of_runMoves initial_oneOperation _).1⟩

end Session
end ModelSync
