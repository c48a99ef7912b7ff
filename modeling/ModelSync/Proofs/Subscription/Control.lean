import ModelSync.Proofs.Subscription.Lifecycle
import ModelSync.Proofs.Subscription.Delivery
/-!
What the subscriber's two calls do to an operation, in every state a run
reaches.

Starting is allowed once, from `idle`: it hands the operation's candidates to
a new loop and the operation is `starting`. In any other phase the operation
holds no candidates (`Operation.Coherent.candidates`), so a refused start
changes nothing but the one usage failure it delivers
(`Session.start_of_not_idle`); the failure says why (`Phase.startRefusal`).

Canceling never fails. It cancels an operation that is `idle`, `starting` or
`active`, and the endpoint is asked to release a subscription exactly when
the operation was active, under its id (`Session.endpoint_cancel`). An
operation that has ended is left alone: only a debug record is logged
(`Session.cancel_of_terminal`). After a cancellation the operation has
ended, so canceling again only logs, and starting is refused without a word
to the endpoint. Main statement: `Session.start_cancel_of_runMoves`.
-/
namespace ModelSync

/-- Why a start is refused in a phase: the operation was canceled first, or it
was started already. -/
def Phase.startRefusal : Phase → String
  | .canceled _ => "subscription was canceled before it was started"
  | _ => "subscription was already started"

namespace Session

variable {s : Session} {i : Nat} {op : Operation}

/-- Changing an operation in a way that leaves it as it is changes nothing. -/
theorem modifyOp_of_fixed {f : Operation → Operation} (hop : s.op? i = some op) (fixed : f op = op) :
    s.modifyOp i f = s := by
  have same : s.operations.modify i f = s.operations := by
    apply List.ext_getElem?
    intro j
    rw [List.getElem?_modify]
    by_cases here : i = j
    · subst here
      rw [getElem?_operations, hop]
      simp [fixed]
    · simp [here]
  simp only [modifyOp, same]

/-! ## Starting -/

/-- A start outside `idle`, of an operation that holds no candidates, only
delivers the usage failure that says why. -/
theorem start_of_not_idle (hop : s.op? i = some op) (phase : op.phase ≠ .idle)
    (given : op.candidates = none) : s.start i = s.emit i (.error (.usage op.phase.startRefusal)) := by
  have kept : s.modifyOp i ({ · with candidates := none }) = s :=
    modifyOp_of_fixed hop (show { op with candidates := none } = op by rw [← given])
  unfold start
  simp only [hop]
  cases held : op.phase with
  | idle => exact absurd held phase
  | canceled id => simp only [kept, Phase.startRefusal]
  | starting | active | completed | failed => simp only [kept, Phase.startRefusal]

/-- A start from `idle` hands the operation's candidates to a loop that
announces the request first, and holds the loop's handle. -/
theorem op?_start_of_idle {cursor : CandidateCursor} (hop : s.op? i = some op) (phase : op.phase = .idle)
    (given : op.candidates = some cursor) :
    (s.start i).op? i =
      some { op with phase := .starting, candidates := none, task := .running (.announcing cursor),
                     loopHandle := true } := by
  simp [start, hop, phase, given]

/-! ## Canceling -/

/-- An operation that has ended is left alone: canceling it only logs. -/
theorem cancel_of_terminal (hop : s.op? i = some op) (terminal : op.phase.state.isTerminal) :
    s.cancel i = s.log .debug "Nothing to cancel" [] := by
  unfold cancel
  cases phase : op.phase <;> simp_all [Phase.state, SubscriptionState.isTerminal]

/-- A live operation is canceled, keeping the id it was active under. -/
theorem phaseOf_cancel_of_live (hop : s.op? i = some op) (live : op.phase.state.isTerminal = false) :
    (s.cancel i).phaseOf i = .canceled op.phase.activeId := by
  have held : (s.op? i).isSome := by simp [hop]
  unfold cancel
  simp only [hop]
  cases phase : op.phase with
  | idle | starting =>
    simpa [Phase.activeId] using phaseOf_setPhase_self (.canceled none) held
  | active id =>
    have canceled : ((s.abort i).setPhase i (.canceled (some id))).phaseOf i = .canceled (some id) :=
      phaseOf_setPhase_self _ (by simp [hop])
    dsimp only
    split <;> simp [canceled, Phase.activeId]
  | completed | failed | canceled => simp [phase, Phase.state, SubscriptionState.isTerminal] at live

/-- Canceling asks the endpoint to release a subscription exactly when the
operation was active, under its id, and does nothing else at the endpoint. -/
theorem endpoint_cancel :
    (s.cancel i).endpoint = { s.endpoint with released := s.endpoint.released ++ (s.phaseOf i).activeId.toList } := by
  cases hop : s.op? i with
  | none => simp [cancel, phaseOf, hop, Phase.activeId]
  | some op =>
    cases phase : op.phase with
    | active id =>
      -- the release may fail; a failure is only reported
      simp only [cancel, phaseOf, hop, phase, Phase.activeId]
      cases failure : s.endpoint.releaseError <;> simp [ScriptedEndpoint.release, failure]
    | _ => simp [cancel, phaseOf, hop, phase, Phase.activeId]

theorem op?_cancel_isSome : ((s.cancel i).op? i).isSome = (s.op? i).isSome := by
  cases hop : s.op? i with
  | none => simp [cancel, hop]
  | some op =>
    cases phase : op.phase with
    | active id =>
      cases failure : s.endpoint.releaseError <;>
        simp [cancel, hop, phase, ScriptedEndpoint.release, failure, setPhase, emit]
    | _ => simp [cancel, hop, phase, setPhase, dropHandle]

/-- After a cancellation the operation has ended. -/
theorem terminal_cancel (hop : s.op? i = some op) : ((s.cancel i).phaseOf i).state.isTerminal := by
  cases terminal : op.phase.state.isTerminal with
  | true => simpa [cancel_of_terminal hop terminal, phaseOf_of_op? hop] using terminal
  | false => simp [phaseOf_cancel_of_live hop terminal, Phase.state, SubscriptionState.isTerminal]

/-- Canceling twice is canceling once, but for one more debug record. -/
theorem cancel_cancel (hop : s.op? i = some op) :
    (s.cancel i).cancel i = (s.cancel i).log .debug "Nothing to cancel" [] := by
  have held : ((s.cancel i).op? i).isSome := by rw [op?_cancel_isSome, hop]; rfl
  obtain ⟨op', hop'⟩ := Option.isSome_iff_exists.mp held
  have terminal := terminal_cancel hop
  rw [phaseOf_of_op? hop'] at terminal
  exact cancel_of_terminal hop' terminal

/-! ## Along a run -/

/-- In a reachable state, an operation holds candidates exactly while idle. -/
theorem candidates_of_runMoves {s₀ : Session} {ms : List Move} (init : s₀.Initial)
    (hop : (s₀.runMoves ms).op? i = some op) : op.candidates.isSome ↔ op.phase = .idle := by
  have coherent := (init.coherent.runMoves ms) i
  simp only [CoherentAt, hop] at coherent
  exact coherent.candidates

/-- What the subscriber's calls do to an operation in any state a run reaches.
Starting outside `idle` delivers one usage failure, saying the operation was
canceled first or was started already, and changes nothing else: not the
phase, the loop, the candidates, the flags, the endpoint. Starting from
`idle` hands the candidates to a new loop and leaves the endpoint alone.
Canceling asks the endpoint for nothing but the release of the active
subscription, if the operation was active; it cancels a live operation,
keeping its id, and leaves an ended one alone but for a debug record. So a
second cancellation only logs, and a start after a cancellation is refused
without a call to the endpoint. -/
theorem start_cancel_of_runMoves {s₀ s : Session} {ms : List Move} (init : s₀.Initial)
    (reached : s₀.runMoves ms = s) (hop : s.op? i = some op) :
    (op.phase ≠ .idle → s.start i = s.emit i (.error (.usage op.phase.startRefusal))) ∧
    (op.phase = .idle → ∃ cursor, op.candidates = some cursor ∧
      (s.start i).op? i =
        some { op with phase := .starting, candidates := none, task := .running (.announcing cursor),
                       loopHandle := true } ∧
      (s.start i).endpoint = s.endpoint) ∧
    (s.cancel i).endpoint =
      { s.endpoint with released := s.endpoint.released ++ op.phase.activeId.toList } ∧
    (op.phase.state.isTerminal = false → (s.cancel i).phaseOf i = .canceled op.phase.activeId) ∧
    (op.phase.state.isTerminal → s.cancel i = s.log .debug "Nothing to cancel" []) ∧
    (s.cancel i).cancel i = (s.cancel i).log .debug "Nothing to cancel" [] ∧
    (s.cancel i).start i = (s.cancel i).emit i (.error (.usage ((s.cancel i).phaseOf i).startRefusal)) := by
  subst reached
  have candidates := candidates_of_runMoves init hop
  refine ⟨fun phase => start_of_not_idle hop phase ?_, fun phase => ?_, ?_, phaseOf_cancel_of_live hop,
    cancel_of_terminal hop, cancel_cancel hop, ?_⟩
  · simpa [phase] using candidates
  · obtain ⟨cursor, given⟩ := Option.isSome_iff_exists.mp (candidates.mpr phase)
    exact ⟨cursor, given, op?_start_of_idle hop phase given, endpoint_start⟩
  · rw [endpoint_cancel, phaseOf_of_op? hop]
  · -- the state after the cancellation is reached too, and there the operation has ended
    have held : (((s₀.runMoves ms).cancel i).op? i).isSome := by rw [op?_cancel_isSome, hop]; rfl
    obtain ⟨op', hop'⟩ := Option.isSome_iff_exists.mp held
    have reached : s₀.runMoves (ms ++ [.cancel i]) = (s₀.runMoves ms).cancel i := by
      simp [runMoves_append, move]
    have ended := terminal_cancel hop
    rw [phaseOf_of_op? hop'] at ended ⊢
    have phase : op'.phase ≠ .idle := by
      intro idle
      simp [idle, Phase.state, SubscriptionState.isTerminal] at ended
    rw [← reached] at hop' ⊢
    exact start_of_not_idle hop' phase (by simpa [phase] using candidates_of_runMoves init hop')

theorem start_cancel_of_runMoves_started :
    oneOperation.Initial ∧
    (oneOperation.runMoves [.start 0]).op? 0 =
      some { Operation.byApiKey with
             phase := .starting, candidates := none, task := .running (.announcing (.fixed (some .apiKey))),
             loopHandle := true } ∧
    (oneOperation.runMoves [.start 0]).start 0 =
      (oneOperation.runMoves [.start 0]).emit 0 (.error (.usage "subscription was already started")) := by
  have hop : (oneOperation.runMoves [.start 0]).op? 0 = some _ := rfl
  exact ⟨initial_oneOperation, hop, (start_cancel_of_runMoves initial_oneOperation rfl hop).1 (by simp)⟩

end Session
end ModelSync
