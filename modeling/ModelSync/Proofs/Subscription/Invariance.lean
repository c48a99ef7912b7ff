import ModelSync.Proofs.Subscription.Coherence
/-!
Every move keeps every operation of a session coherent with its phase, so
every session reached from operations as built is coherent.

A move belongs to at most one operation and changes no other
(`Session.op?_move_of_owner_ne`). For the operation it belongs to, each kind
of move, and each point a loop can step from, has its own lemma: it unfolds
the step once, splits on what the step reads, and hands each branch to the
change of `Operation.Coherent` that describes it.
-/
namespace ModelSync

theorem CandidateCursor.next_isSome {cursor : CandidateCursor} (h : cursor.hasNext = true) :
    cursor.next.isSome := by
  cases cursor with
  | fixed t => cases t <;> simp_all [CandidateCursor.hasNext, CandidateCursor.next]
  | ruleDerived items => cases items <;> simp_all [CandidateCursor.hasNext, CandidateCursor.next]

namespace Session

/-! ## Moves of one operation leave the others alone -/

section Frame

variable (s : Session) {i j : Nat}

@[simp] theorem op?_signalCancel :
    (s.signalCancel i).op? j = (s.modifyOp i ({ · with canceled := true })).op? j := by
  unfold signalCancel; dsimp only; split <;> simp

@[simp] theorem endpoint_signalCancel : (s.signalCancel i).endpoint = s.endpoint := by
  unfold signalCancel; dsimp only; split <;> simp

@[simp] theorem endpoint_abort : (s.abort i).endpoint = s.endpoint := by
  unfold abort; split <;> simp [setTask, dropHandle]

@[simp] theorem op?_fail (e : SubscriptionError) :
    (s.fail i e).op? j = if s.phaseOf i = .starting then
      (((s.setPhase i (.failed none)).dropHandle i).emit i (.error e)).op? j else s.op? j := by
  unfold fail; split <;> simp [emit]

theorem op?_abort_ne (h : j ≠ i) : (s.abort i).op? j = s.op? j := by
  unfold abort; split <;> simp [setTask, dropHandle, h]

theorem op?_start_ne (h : j ≠ i) : (s.start i).op? j = s.op? j := by
  unfold start
  split
  · rfl
  · split <;> simp [emit, h]

theorem op?_cancel_ne (h : j ≠ i) : (s.cancel i).op? j = s.op? j := by
  unfold cancel
  split
  · rfl
  · rename_i op _
    cases phase : op.phase with
    | active id =>
      dsimp only
      split <;> simp [setPhase, emit, h, op?_abort_ne _ h]
    | idle | starting => simp [setPhase, dropHandle, h]
    | _ => simp

theorem op?_terminateFailed_ne (id : String) (e : EndpointError) (h : j ≠ i) :
    (s.terminateFailed i id e).op? j = s.op? j := by
  simp [terminateFailed, setPhase, dropHandle, emit, h]

theorem op?_activate_ne (id : String) (h : j ≠ i) : (s.activate i id).1.op? j = s.op? j := by
  unfold activate
  dsimp only
  split <;> split <;> simp [setPhase, emit, h]

theorem op?_stepLoop_ne (point : LoopPoint) (h : j ≠ i) : (s.stepLoop i point).1.op? j = s.op? j := by
  unfold stepLoop choose reject forwardEvent
  dsimp only
  repeat' split
  all_goals simp [setPhase, dropHandle, emit, h, op?_activate_ne _ _ h,
    op?_terminateFailed_ne _ _ _ h]

/-- A move changes no operation but the one it belongs to. -/
theorem op?_move_of_owner_ne (m : Move) (h : m.owner ≠ some j) : (s.move m).op? j = s.op? j := by
  cases m with
  | start i => exact op?_start_ne s (by simpa [Move.owner, eq_comm] using h)
  | cancel i => exact op?_cancel_ne s (by simpa [Move.owner, eq_comm] using h)
  | loop i =>
    have other : j ≠ i := by simpa [Move.owner, eq_comm] using h
    simp only [move, loopMove]
    split <;> simp [setTask, other, op?_stepLoop_ne _ _ other]
  | drop i =>
    have other : j ≠ i := by simpa [Move.owner, eq_comm] using h
    simp only [move, dropMove]
    split
    · rename_i point aborted
      cases hop : s.op? i with
      | none => simp [taskOf, hop] at aborted
      | some op =>
        have task : op.task = .aborting point := by simpa [taskOf, hop] using aborted
        simp only [runTask, hop, task]
        split <;> simp [setTask, other]
    · rfl
  | expire i =>
    have other : j ≠ i := by simpa [Move.owner, eq_comm] using h
    simp only [move, expireMove]
    split <;> simp [setTask, other]
  | timeout i =>
    have other : j ≠ i := by simpa [Move.owner, eq_comm] using h
    simp only [move, timeoutMove]
    split <;> simp [setTask, other]
  | send n event => rfl
  | close n => rfl

/-- A move of an operation the session does not have changes nothing. -/
theorem move_of_op?_none (m : Move) (hop : s.op? j = none) (h : m.owner = some j) : s.move m = s := by
  cases m <;> simp only [Move.owner, Option.some.injEq, reduceCtorEq] at h <;> subst h <;>
    simp [move, start, cancel, loopMove, dropMove, expireMove, timeoutMove, taskOf, hop]

end Frame

/-! ## The operation a move belongs to stays coherent -/

section Owner

variable {s : Session} {i : Nat} {op : Operation} {acks releases : List String}

theorem phaseOf_of_op? (hop : s.op? i = some op) : s.phaseOf i = op.phase := by
  simp [phaseOf, hop]

theorem coherentAt_start (h : s.CoherentAt i acks releases) :
    (s.start i).CoherentAt i acks releases := by
  cases hop : s.op? i with
  | none => simpa [CoherentAt, start, hop] using h
  | some op =>
    replace h : op.Coherent acks releases := by simpa [CoherentAt, hop] using h
    simp only [start, hop]
    split
    · rename_i cursor idle _
      simpa [CoherentAt, hop] using h.start idle cursor
    · rename_i _ canceled
      simpa [CoherentAt, hop, emit] using h.refuseStart (by simp [canceled]) _
    · rename_i _ other
      have notIdle : op.phase ≠ .idle := by
        intro idle
        obtain ⟨cursor, held⟩ := Option.isSome_iff_exists.mp (h.candidates.mpr idle)
        exact other cursor idle held
      simpa [CoherentAt, hop, emit] using h.refuseStart notIdle _

theorem op?_abort_of_running {point : LoopPoint} (hop : s.op? i = some op)
    (task : op.task = .running point) (handle : op.loopHandle = true) :
    (s.abort i).op? i = some { op with task := .aborting point, loopHandle := false } := by
  obtain ⟨request, decorator, phase, candidates, task₀, handle₀, ack, canceled, events⟩ := op
  dsimp only at task handle
  subst task handle
  simp [abort, hop, setTask, dropHandle]

theorem coherentAt_cancel (h : s.CoherentAt i acks releases) :
    (s.cancel i).CoherentAt i acks (releases ++ (s.phaseOf i).activeId.toList) := by
  unfold CoherentAt at h ⊢
  cases hop : s.op? i with
  | none => simpa [cancel, hop, phaseOf, Phase.activeId] using h
  | some op =>
    rw [hop] at h
    rw [phaseOf_of_op? hop]
    cases phase : op.phase with
    | idle =>
      simpa [cancel, hop, phase, setPhase, dropHandle, Phase.activeId] using h.cancelPending (.inl phase)
    | starting =>
      simpa [cancel, hop, phase, setPhase, dropHandle, Phase.activeId] using
        h.cancelPending (.inr phase)
    | active id =>
      obtain ⟨⟨n, task⟩, -, acked, released⟩ := (Operation.stage_active phase).1 h.stage
      have handle : op.loopHandle = true := by simpa [phase, Phase.state] using h.loopHandle
      subst acked released
      cases failure : s.endpoint.releaseError with
      | none =>
        simpa [cancel, hop, phase, setPhase, op?_abort_of_running hop task handle, Phase.activeId,
          ScriptedEndpoint.release, failure] using h.cancelActive phase n [] (.inl rfl)
      | some e =>
        simpa [cancel, hop, phase, setPhase, emit, op?_abort_of_running hop task handle,
          Phase.activeId, ScriptedEndpoint.release, failure] using
          h.cancelActive phase n [.error (.endpoint e)] (.inr ⟨e, rfl⟩)
    | completed id => simpa [cancel, hop, phase, Phase.activeId] using h
    | failed id => simpa [cancel, hop, phase, Phase.activeId] using h
    | canceled id => simpa [cancel, hop, phase, Phase.activeId] using h

theorem loopMove_running {point : LoopPoint} (hop : s.op? i = some op)
    (task : op.task = .running point) :
    s.loopMove i = (s.stepLoop i point).1.setTask i (s.stepLoop i point).2.task := by
  simp [loopMove, taskOf, hop, task]

theorem coherentAt_loop_announcing {cursor : CandidateCursor} (hop : s.op? i = some op)
    (task : op.task = .running (.announcing cursor)) (h : op.Coherent acks releases) :
    (s.loopMove i).CoherentAt i (acks ++ (s.ackTaken i).toList)
      (releases ++ (s.releaseTaken i).toList) := by
  have noAck : s.ackTaken i = none := by simp [ackTaken, hop, task]
  have noRelease : s.releaseTaken i = none := by simp [releaseTaken, taskOf, hop, task]
  simp only [noAck, noRelease, Option.toList_none, List.append_nil, CoherentAt, loopMove_running hop task,
    stepLoop, hop, setTask, LoopStep.task, op?_modifyOp, op?_log, if_pos, Option.map_some]
  exact h.retask task (h.pending task (by simp)) (fun trying => ⟨trying, .inl rfl⟩)
    (fun wound => .inl ⟨wound.trying (by simp), .inl rfl⟩)

theorem coherentAt_reject {a : PendingAttempt} (hop : s.op? i = some op)
    (h : op.Coherent [] []) (phase : op.phase = .starting) (task : op.task = .running (.awaitingStart a))
    (left : a.hasNext = a.cursor.hasNext) (e : EndpointError) :
    ((s.reject i a e).1.setTask i (s.reject i a e).2.task).CoherentAt i [] [] := by
  unfold reject
  by_cases more : a.hasNext = true
  · simp only [more, CoherentAt, setTask, LoopStep.task, op?_modifyOp, op?_log,
      op?_dropReceiver, hop, if_pos, Option.map_some]
    exact h.retask task (.inl phase) (fun _ => ⟨rfl, .inr (left ▸ more)⟩)
      (fun _ => .inl ⟨rfl, .inr (left ▸ more)⟩)
  · simp [more, CoherentAt, setTask, LoopStep.task, phaseOf, phase, setPhase, dropHandle, emit, hop]
    exact h.fail phase _ trivial

theorem coherentAt_loop_awaitingStart {a : PendingAttempt} (hop : s.op? i = some op)
    (task : op.task = .running (.awaitingStart a)) (h : op.Coherent acks releases) :
    (s.loopMove i).CoherentAt i (acks ++ (s.ackTaken i).toList)
      (releases ++ (s.releaseTaken i).toList) := by
  have noRelease : s.releaseTaken i = none := by simp [releaseTaken, taskOf, hop, task]
  rw [noRelease, Option.toList_none, List.append_nil, loopMove_running hop task]
  rcases h.running task with ⟨phase, ⟨noAcks, left⟩, noReleases⟩ | ⟨phase, wound, noReleases⟩ |
    ⟨_, _, _, point, -⟩
  · have live : op.canceled = false := by simpa [phase, Phase.state] using h.canceled
    subst noAcks noReleases
    simp only [ackTaken, startedOn, stepLoop, hop, task, live, Bool.false_eq_true, if_false]
    have kept : (s.receive a.stream).1.op? i = some op := by simp [hop]
    generalize s.receive a.stream = r at kept ⊢
    obtain ⟨s', received⟩ := r
    dsimp only at kept ⊢
    rcases received with (id | payload | e | _) | _ | _
    · have reading : { op with task := .running (.activating a.stream id) }.Coherent [id] [] :=
        h.retask task (.inl phase) (fun _ => rfl) (fun _ => .inl rfl)
      simpa [CoherentAt, setTask, LoopStep.task, kept] using reading
    · simpa [CoherentAt, setTask, LoopStep.task, kept] using h.stay task
    · simpa using coherentAt_reject kept h phase task left e
    · simpa using coherentAt_reject kept h phase task left .closed
    · simpa using coherentAt_reject kept h phase task left .closed
    · simpa [CoherentAt, setTask, LoopStep.task, kept] using h.stay task
  · have canceled : op.canceled = true := by simpa [phase, Phase.state] using h.canceled
    have noAcks : acks = [] := (wound.trying (by simp)).1
    subst noAcks
    simpa [ackTaken, stepLoop, hop, task, canceled, CoherentAt, setTask, LoopStep.task] using
      h.drain task phase a.stream (s.clock + lateAckWindow) false
  · cases point

theorem coherentAt_loop_choosing {cursor : CandidateCursor} {attempts : Nat}
    (hop : s.op? i = some op) (task : op.task = .running (.choosing cursor attempts))
    (h : op.Coherent acks releases) :
    (s.loopMove i).CoherentAt i (acks ++ (s.ackTaken i).toList)
      (releases ++ (s.releaseTaken i).toList) := by
  have noAck : s.ackTaken i = none := by simp [ackTaken, hop, task]
  have noRelease : s.releaseTaken i = none := by simp [releaseTaken, taskOf, hop, task]
  simp only [noAck, noRelease, Option.toList_none, List.append_nil, CoherentAt,
    loopMove_running hop task, stepLoop, hop]
  rcases h.running task with ⟨phase, ⟨noAcks, fresh⟩, noReleases⟩ | ⟨phase, wound, noReleases⟩ |
    ⟨_, _, _, point, -⟩
  · subst noAcks noReleases
    unfold choose
    simp only [phase, bne_self_eq_false, Bool.false_eq_true, if_false]
    rcases next : cursor.next with _ | ⟨_ | a, rest⟩
    · -- out of candidates: only before any attempt is there nothing left to wait for
      have zero : attempts = 0 :=
        fresh.resolve_right fun more => by simpa [next] using CandidateCursor.next_isSome more
      simp [zero, setTask, LoopStep.task, phaseOf_of_op? hop, phase, setPhase, dropHandle, emit, hop]
      exact h.fail phase _ trivial
    · simp [setTask, LoopStep.task, phaseOf_of_op? hop, phase, setPhase, dropHandle, emit, hop]
      exact h.fail phase _ trivial
    · dsimp only
      generalize (if a.decorate = true then op.decorator.decorate op.request a.authType
        else Except.ok op.request) = decorated
      cases decorated with
      | error e =>
        by_cases more : rest.hasNext = true
        · simp only [more, if_true, setTask, LoopStep.task, op?_modifyOp, op?_log, hop, Option.map_some]
          exact h.retask task (.inl phase) (fun _ => ⟨rfl, .inr more⟩) (fun _ => .inl ⟨rfl, .inr more⟩)
        · simp [more, setTask, LoopStep.task, phaseOf, phase, setPhase, dropHandle, emit, hop]
          exact h.fail phase _ trivial
      | ok r =>
        simp only [setTask, LoopStep.task, op?_modifyOp, op?_mk, operations_log, getElem?_operations,
          hop, if_true, Option.map_some]
        exact h.retask task (.inl phase) (fun _ => ⟨rfl, rfl⟩) (fun _ => .inl ⟨rfl, rfl⟩)
  · have noAcks : acks = [] := (wound.trying (by simp)).1
    unfold choose
    simp only [show (op.phase != .starting) = true by simp [phase], if_true, setTask,
      LoopStep.task, op?_modifyOp, hop, Option.map_some]
    subst noAcks noReleases
    exact h.wound phase [] (by simp)
  · cases point

theorem coherentAt_loop_activating {n : Nat} {id : String} (hop : s.op? i = some op)
    (task : op.task = .running (.activating n id)) (h : op.Coherent acks releases) :
    (s.loopMove i).CoherentAt i (acks ++ (s.ackTaken i).toList)
      (releases ++ (s.releaseTaken i).toList) := by
  have noAck : s.ackTaken i = none := by simp [ackTaken, hop, task]
  rw [noAck, Option.toList_none, List.append_nil, loopMove_running hop task]
  rcases h.running task with ⟨phase, acked, noReleases⟩ | ⟨phase, wound, noReleases⟩ |
    ⟨_, _, _, point, -⟩
  · -- the acknowledgment is accepted: the operation is still starting
    have fresh : op.acknowledged = false := by simpa [phase, Phase.subscriptionId] using h.acknowledged
    have noRelease : s.releaseTaken i = none := by simp [releaseTaken, taskOf, phaseOf, hop, task, phase]
    change acks = [id] at acked
    subst acked noReleases
    simpa [noRelease, CoherentAt, stepLoop, activate, hop, phaseOf, phase, fresh, setPhase, setTask,
      emit, LoopStep.task] using h.activate phase n
  · -- canceled in between: the acknowledgment is released
    have acked : acks = [id] := wound.trying (by simp)
    have released : s.releaseTaken i = some id := by
      simp [releaseTaken, taskOf, phaseOf, hop, task, phase]
    subst acked noReleases
    simpa [released, CoherentAt, stepLoop, activate, hop, phaseOf, phase, setTask, LoopStep.task] using
      h.wound phase [id] (by simp)
  · cases point

theorem coherentAt_loop_forwarding {n : Nat} (hop : s.op? i = some op)
    (task : op.task = .running (.forwarding n)) (h : op.Coherent acks releases) :
    (s.loopMove i).CoherentAt i (acks ++ (s.ackTaken i).toList)
      (releases ++ (s.releaseTaken i).toList) := by
  have noAck : s.ackTaken i = none := by simp [ackTaken, hop, task]
  rw [noAck, Option.toList_none, List.append_nil, loopMove_running hop task]
  rcases h.running task with ⟨_, trying, -⟩ | ⟨_, wound, -⟩ | ⟨id, _, phase, -, acked, noReleases⟩
  · cases trying
  · rcases wound with trying | ⟨_, _, _, point, -⟩
    · cases trying
    · cases point
  subst acked noReleases
  simp only [releaseTaken, taskOf, phaseOf, stepLoop, hop, task, phase, Phase.activeId]
  have kept : (s.receive n).1.op? i = some op := by simp [hop]
  generalize s.receive n = r at kept ⊢
  obtain ⟨s', received⟩ := r
  dsimp only at kept ⊢
  rcases received with (_ | payload | e | _) | _ | _
  · simpa [forwardEvent, CoherentAt, setTask, LoopStep.task, kept] using h.stay task
  · cases decoded : Response.ofJson payload with
    | ok r =>
      simpa [forwardEvent, decoded, CoherentAt, setTask, LoopStep.task, emit, kept] using
        h.deliver phase r n
    | error e =>
      simpa [forwardEvent, decoded, CoherentAt, setTask, LoopStep.task, setPhase, dropHandle, emit,
        kept] using h.undecodable phase e.message
  · simpa [forwardEvent, CoherentAt, setTask, LoopStep.task, terminateFailed, setPhase, dropHandle, emit,
      kept] using h.terminate phase e
  · simpa [forwardEvent, CoherentAt, setTask, LoopStep.task, setPhase, dropHandle, emit, kept] using
      h.complete phase
  · simpa [CoherentAt, setTask, LoopStep.task, terminateFailed, setPhase, dropHandle, emit, kept] using
      h.terminate phase .closed
  · simpa [CoherentAt, setTask, LoopStep.task, kept] using h.stay task

theorem coherentAt_loop_draining {n deadline : Nat} {expired : Bool} (hop : s.op? i = some op)
    (task : op.task = .running (.draining n deadline expired)) (h : op.Coherent acks releases) :
    (s.loopMove i).CoherentAt i (acks ++ (s.ackTaken i).toList)
      (releases ++ (s.releaseTaken i).toList) := by
  rw [loopMove_running hop task]
  rcases h.running task with ⟨_, trying, -⟩ | ⟨phase, wound, noReleases⟩ | ⟨_, _, _, point, -⟩
  · cases trying
  · have noAcks : acks = [] := by
      rcases wound with trying | ⟨_, _, _, _, noAcks⟩
      · cases trying
      · exact noAcks
    subst noAcks noReleases
    simp only [ackTaken, releaseTaken, taskOf, phaseOf, startedOn, stepLoop, hop, task, phase]
    have kept : (s.receive n).1.op? i = some op := by simp [hop]
    generalize s.receive n = r at kept ⊢
    obtain ⟨s', received⟩ := r
    dsimp only at kept ⊢
    rcases received with (id | payload | e | _) | _ | _
    · -- a late acknowledgment is released
      simpa [CoherentAt, setTask, LoopStep.task, kept] using h.wound phase [id] (by simp)
    · simpa [CoherentAt, setTask, LoopStep.task, kept] using h.drain task phase n deadline expired
    · simpa [CoherentAt, setTask, LoopStep.task, kept] using h.wound phase [] (by simp)
    · simpa [CoherentAt, setTask, LoopStep.task, kept] using h.wound phase [] (by simp)
    · simpa [CoherentAt, setTask, LoopStep.task, kept] using h.wound phase [] (by simp)
    · cases expired
      · simpa [CoherentAt, setTask, LoopStep.task, kept] using h.drain task phase n deadline false
      · simpa [CoherentAt, setTask, LoopStep.task, kept] using h.wound phase [] (by simp)
  · cases point

theorem coherentAt_loopMove (h : s.CoherentAt i acks releases) :
    (s.loopMove i).CoherentAt i (acks ++ (s.ackTaken i).toList)
      (releases ++ (s.releaseTaken i).toList) := by
  cases hop : s.op? i with
  | none => simpa [CoherentAt, loopMove, ackTaken, releaseTaken, taskOf, hop] using h
  | some op =>
    replace h : op.Coherent acks releases := by simpa [CoherentAt, hop] using h
    cases task : op.task with
    | running point =>
      cases point with
      | announcing => exact coherentAt_loop_announcing hop task h
      | choosing => exact coherentAt_loop_choosing hop task h
      | awaitingStart => exact coherentAt_loop_awaitingStart hop task h
      | activating => exact coherentAt_loop_activating hop task h
      | forwarding => exact coherentAt_loop_forwarding hop task h
      | draining => exact coherentAt_loop_draining hop task h
    | aborting point => simpa [CoherentAt, loopMove, ackTaken, releaseTaken, taskOf, hop, task] using h
    | none => simpa [CoherentAt, loopMove, ackTaken, releaseTaken, taskOf, hop, task] using h

theorem coherentAt_dropMove (h : s.CoherentAt i acks releases) :
    (s.dropMove i).CoherentAt i acks releases := by
  cases hop : s.op? i with
  | none => simpa [CoherentAt, dropMove, taskOf, hop] using h
  | some op =>
    replace h : op.Coherent acks releases := by simpa [CoherentAt, hop] using h
    cases task : op.task with
    | aborting point =>
      obtain ⟨id, phase⟩ := h.aborting task
      simp only [dropMove, taskOf, hop, task, runTask]
      split <;> simpa [CoherentAt, setTask, hop] using h.dropAborted phase
    | running point => simpa [CoherentAt, dropMove, taskOf, hop, task] using h
    | none => simpa [CoherentAt, dropMove, taskOf, hop, task] using h

theorem coherentAt_expireMove (h : s.CoherentAt i acks releases) :
    (s.expireMove i).CoherentAt i acks releases := by
  cases hop : s.op? i with
  | none => simpa [CoherentAt, expireMove, taskOf, hop] using h
  | some op =>
    replace h : op.Coherent acks releases := by simpa [CoherentAt, hop] using h
    simp only [expireMove, taskOf, hop]
    split
    · rename_i n deadline task
      rcases h.running task with ⟨_, trying, -⟩ | ⟨phase, wound, -⟩ | ⟨_, _, _, point, -⟩
      · cases trying
      · obtain ⟨_, _, _, ⟨⟩, noAcks⟩ := wound.resolve_left id
        subst noAcks
        simpa [CoherentAt, setTask, hop] using h.drain task phase n deadline true
      · cases point
    · simpa [CoherentAt, hop] using h

theorem coherentAt_timeoutMove (h : s.CoherentAt i acks releases) :
    (s.timeoutMove i).CoherentAt i acks releases := by
  cases hop : s.op? i with
  | none => simpa [CoherentAt, timeoutMove, taskOf, hop] using h
  | some op =>
    replace h : op.Coherent acks releases := by simpa [CoherentAt, hop] using h
    simp only [timeoutMove, taskOf, hop]
    split
    · rename_i n deadline expired task
      rcases h.running task with ⟨_, trying, -⟩ | ⟨phase, wound, noReleases⟩ | ⟨_, _, _, point, -⟩
      · cases trying
      · obtain ⟨_, _, _, ⟨⟩, noAcks⟩ := wound.resolve_left id
        subst noAcks noReleases
        simpa [CoherentAt, setTask, hop] using h.wound phase [] (by simp)
      · cases point
    · simpa [CoherentAt, hop] using h

theorem ackIn_of_owner_ne {m : Move} (h : m.owner ≠ some i) : s.ackIn i m = none := by
  cases m <;> simp_all [ackIn, Move.owner]

theorem releaseIn_of_owner_ne {m : Move} (h : m.owner ≠ some i) : s.releaseIn i m = none := by
  cases m <;> simp_all [releaseIn, Move.owner]

/-- A move keeps an operation coherent with what its loop consumed and released. -/
theorem coherentAt_move (h : s.CoherentAt i acks releases) (m : Move) :
    (s.move m).CoherentAt i (acks ++ (s.ackIn i m).toList)
      (releases ++ (s.releaseIn i m).toList) := by
  by_cases mine : m.owner = some i
  · cases m <;> simp only [Move.owner, Option.some.injEq, reduceCtorEq] at mine <;> subst mine
    case start => simpa [ackIn, releaseIn, move] using coherentAt_start h
    case cancel => simpa [ackIn, releaseIn, move] using coherentAt_cancel h
    case loop => simpa [ackIn, releaseIn, move] using coherentAt_loopMove h
    case drop => simpa [ackIn, releaseIn, move] using coherentAt_dropMove h
    case expire => simpa [ackIn, releaseIn, move] using coherentAt_expireMove h
    case timeout => simpa [ackIn, releaseIn, move] using coherentAt_timeoutMove h
  · have same := op?_move_of_owner_ne s m mine
    simpa [CoherentAt, same, ackIn_of_owner_ne mine, releaseIn_of_owner_ne mine] using h

end Owner

/-! ## Whole runs -/

section Runs

variable {s : Session} {A R : Nat → List String}

theorem Coherent.move (h : s.Coherent A R) (m : Move) :
    (s.move m).Coherent (fun i => A i ++ (s.ackIn i m).toList) (fun i => R i ++ (s.releaseIn i m).toList) :=
  fun i => coherentAt_move (h i) m

/-- Along a run, every operation stays coherent with what its loop consumed and released. -/
theorem Coherent.runMoves (h : s.Coherent A R) (ms : List Move) :
    (s.runMoves ms).Coherent (fun i => A i ++ along (ackIn · i) s ms)
      (fun i => R i ++ along (releaseIn · i) s ms) := by
  induction ms generalizing s A R with
  | nil => simpa using h
  | cons m ms ih => simpa using ih (h.move m)

theorem Initial.coherent (h : s.Initial) : s.Coherent (fun _ => []) (fun _ => []) := by
  intro i
  cases hop : s.op? i with
  | none => simp [CoherentAt, hop]
  | some op =>
    simpa [CoherentAt, hop] using (h op (List.mem_of_getElem? hop)).coherent

end Runs

end Session
end ModelSync
