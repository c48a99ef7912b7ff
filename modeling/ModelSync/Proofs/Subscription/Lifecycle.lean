import ModelSync.Proofs.Subscription.Invariance
/-!
The lifecycle of an operation, whatever the interleaving of its parties.

A phase changes only along `Phase.Advance`: every move keeps an operation's
phase or takes it one step (`Session.phaseOf_move`). This holds of every
session, reachable or not, because each write of a phase is guarded: a loop
fails or activates its operation only while it is starting, and ends it
under the id of its active phase. Along a run it follows that a terminal
phase is never left, that an id once given is kept, and that an operation
gains its id exactly by becoming active (`Session.subscriptionId_runMoves_isSome_iff`).
`Session.lifecycle_of_runMoves` collects these with what `Operation.Coherent`
says of the flags.
-/
namespace ModelSync

/-- The phase changes of the lifecycle. An operation starts or is canceled
while idle; while starting it becomes active under the id it was
acknowledged with, is canceled, or fails; while active it completes, is
canceled or fails, keeping its id. -/
inductive Phase.Advance : Phase → Phase → Prop
  | start : Advance .idle .starting
  | cancelIdle : Advance .idle (.canceled none)
  | activate (id : String) : Advance .starting (.active id)
  | cancelStarting : Advance .starting (.canceled none)
  | fail : Advance .starting (.failed none)
  | complete (id : String) : Advance (.active id) (.completed id)
  | cancelActive (id : String) : Advance (.active id) (.canceled (some id))
  | failActive (id : String) : Advance (.active id) (.failed (some id))

attribute [simp] Phase.Advance.start Phase.Advance.cancelIdle Phase.Advance.activate
  Phase.Advance.cancelStarting Phase.Advance.fail Phase.Advance.complete Phase.Advance.cancelActive
  Phase.Advance.failActive

namespace Phase

@[simp] theorem activeId_eq_some {p : Phase} {id : String} : p.activeId = some id ↔ p = .active id := by
  cases p <;> simp [activeId]

variable {p q : Phase}

/-- Nothing follows a terminal phase. -/
theorem Advance.not_terminal (h : p.Advance q) : p.state.isTerminal = false := by
  cases h <;> rfl

/-- An id, once acknowledged, is kept. -/
theorem Advance.subscriptionId_eq {id : String} (h : p.Advance q) (held : p.subscriptionId = some id) :
    q.subscriptionId = some id := by
  cases h <;> simp_all [subscriptionId]

/-- The one change that gives an operation its id is its activation. -/
theorem Advance.eq_active {id : String} (h : p.Advance q) (before : p.subscriptionId = none)
    (after : q.subscriptionId = some id) : q = .active id := by
  cases h <;> simp_all [subscriptionId]

end Phase

namespace Session

/-! ## The phase an operation is left in by a move -/

section Phases

variable {s : Session} {i j : Nat} {op : Operation}

@[simp] theorem phaseOf_modifyOp_of_phase (f : Operation → Operation)
    (keeps : ∀ op, (f op).phase = op.phase) : (s.modifyOp i f).phaseOf j = s.phaseOf j := by
  by_cases same : j = i
  · subst same
    cases hop : s.op? j <;> simp [phaseOf, hop, keeps]
  · simp [phaseOf, same]

@[simp] theorem phaseOf_log (level : LogLevel) (message : String) (fields : List (String × JsonValue)) :
    (s.log level message fields).phaseOf j = s.phaseOf j := rfl

@[simp] theorem phaseOf_mk (t : Session) (endpoint : ScriptedEndpoint) (runQueue deferred : List Nat)
    (clock : Nat) (logs : List LogRecord) (registry : List Nat) :
    ({ operations := t.operations, endpoint, runQueue, deferred, clock, logs, registry } : Session).phaseOf j =
      t.phaseOf j := rfl

@[simp] theorem phaseOf_dropReceiver (n : Nat) : (s.dropReceiver n).phaseOf j = s.phaseOf j := rfl

@[simp] theorem phaseOf_wake : (s.wake i).phaseOf j = s.phaseOf j := by
  simp [phaseOf]

@[simp] theorem phaseOf_setTask (t : Task) : (s.setTask i t).phaseOf j = s.phaseOf j :=
  phaseOf_modifyOp_of_phase _ fun _ => rfl

@[simp] theorem phaseOf_dropHandle : (s.dropHandle i).phaseOf j = s.phaseOf j :=
  phaseOf_modifyOp_of_phase _ fun _ => rfl

@[simp] theorem phaseOf_emit (e : SubscriptionEvent) : (s.emit i e).phaseOf j = s.phaseOf j :=
  phaseOf_modifyOp_of_phase _ fun _ => rfl

@[simp] theorem phaseOf_signalCancel : (s.signalCancel i).phaseOf j = s.phaseOf j := by
  simp only [phaseOf, op?_signalCancel]
  exact phaseOf_modifyOp_of_phase _ (fun _ => rfl)

@[simp] theorem phaseOf_abort : (s.abort i).phaseOf j = s.phaseOf j := by
  unfold abort
  split <;> simp

/-- A loop step moves its operation along the lifecycle, if at all: it fails
an operation only while starting, activates one only while starting, and
ends one under the id of its active phase. -/
theorem phaseOf_stepLoop (hop : s.op? i = some op) (point : LoopPoint) :
    (s.stepLoop i point).1.phaseOf i = op.phase ∨ op.phase.Advance ((s.stepLoop i point).1.phaseOf i) := by
  unfold stepLoop choose reject forwardEvent activate fail terminateFailed
  simp only [hop]
  repeat' split
  all_goals simp_all [phaseOf, setPhase, dropHandle, emit]

theorem phaseOf_start (hop : s.op? i = some op) :
    (s.start i).phaseOf i = op.phase ∨ op.phase.Advance ((s.start i).phaseOf i) := by
  unfold start
  simp only [hop]
  split
  · rename_i idle _
    exact .inr (by simp [phaseOf, hop, idle])
  · exact .inl (by simp [phaseOf_of_op? hop])
  · exact .inl (by simp [phaseOf_of_op? hop])

@[simp] theorem op?_abort_isSome : ((s.abort i).op? j).isSome = (s.op? j).isSome := by
  unfold abort
  split <;> simp [setTask, dropHandle] <;> split <;> simp

theorem phaseOf_setPhase_self (p : Phase) (held : (s.op? i).isSome) : (s.setPhase i p).phaseOf i = p := by
  obtain ⟨op, hop⟩ := Option.isSome_iff_exists.mp held
  simp [phaseOf, setPhase, hop]

theorem phaseOf_cancel (hop : s.op? i = some op) :
    (s.cancel i).phaseOf i = op.phase ∨ op.phase.Advance ((s.cancel i).phaseOf i) := by
  unfold cancel
  simp only [hop]
  cases phase : op.phase with
  | idle => exact .inr (by simp [phaseOf, setPhase, dropHandle, hop])
  | starting => exact .inr (by simp [phaseOf, setPhase, dropHandle, hop])
  | active id =>
    have canceled : ((s.abort i).setPhase i (.canceled (some id))).phaseOf i = .canceled (some id) :=
      phaseOf_setPhase_self _ (by simp [hop])
    refine .inr ?_
    dsimp only
    split <;> simp [canceled]
  | completed id => exact .inl (by simp [phaseOf_of_op? hop, phase])
  | failed id => exact .inl (by simp [phaseOf_of_op? hop, phase])
  | canceled id => exact .inl (by simp [phaseOf_of_op? hop, phase])

@[simp] theorem phaseOf_dropMove : (s.dropMove i).phaseOf j = s.phaseOf j := by
  unfold dropMove
  split
  · rename_i point aborted
    cases hop : s.op? i with
    | none => simp [taskOf, hop] at aborted
    | some op =>
      have task : op.task = .aborting point := by simpa [taskOf, hop] using aborted
      simp only [runTask, hop, task]
      split <;> simp
  · rfl

@[simp] theorem phaseOf_expireMove : (s.expireMove i).phaseOf j = s.phaseOf j := by
  unfold expireMove; split <;> simp

@[simp] theorem phaseOf_timeoutMove : (s.timeoutMove i).phaseOf j = s.phaseOf j := by
  unfold timeoutMove; split <;> simp

/-- Every move keeps an operation's phase or takes it one step along the lifecycle. -/
theorem phaseOf_move (m : Move) :
    (s.move m).phaseOf i = s.phaseOf i ∨ (s.phaseOf i).Advance ((s.move m).phaseOf i) := by
  by_cases mine : m.owner = some i
  · cases hop : s.op? i with
    | none => exact .inl (by rw [move_of_op?_none s m hop mine])
    | some op =>
      rw [phaseOf_of_op? hop]
      cases m <;> simp only [Move.owner, Option.some.injEq, reduceCtorEq] at mine <;> subst mine
      case start => exact phaseOf_start hop
      case cancel => exact phaseOf_cancel hop
      case loop =>
        simp only [move, loopMove, taskOf, hop]
        split
        · simpa using phaseOf_stepLoop hop _
        · exact .inl (phaseOf_of_op? hop)
      all_goals exact .inl (by simp [move, phaseOf_of_op? hop])
  · exact .inl (by simp [phaseOf, op?_move_of_owner_ne s m mine])

end Phases

/-! ## The phase along a run -/

section Runs

variable {s : Session} {i : Nat}

/-- A terminal phase is never left. -/
theorem phaseOf_runMoves_of_terminal (terminal : (s.phaseOf i).state.isTerminal) (ms : List Move) :
    (s.runMoves ms).phaseOf i = s.phaseOf i := by
  induction ms generalizing s with
  | nil => rfl
  | cons m ms ih =>
    have kept : (s.move m).phaseOf i = s.phaseOf i := by
      rcases phaseOf_move (s := s) (i := i) m with same | advance
      · exact same
      · simp [advance.not_terminal] at terminal
    rw [runMoves_cons, ih (kept ▸ terminal), kept]

/-- An acknowledged id is kept along every run. -/
theorem subscriptionId_runMoves {id : String} (held : (s.phaseOf i).subscriptionId = some id)
    (ms : List Move) : ((s.runMoves ms).phaseOf i).subscriptionId = some id := by
  induction ms generalizing s with
  | nil => exact held
  | cons m ms ih =>
    apply ih
    rcases phaseOf_move (s := s) (i := i) m with same | advance
    · rwa [same]
    · exact advance.subscriptionId_eq held

/-- A run that gives an operation an id makes it active under that id on the way. -/
theorem exists_active_of_subscriptionId {id : String} {ms : List Move}
    (before : (s.phaseOf i).subscriptionId = none)
    (after : ((s.runMoves ms).phaseOf i).subscriptionId = some id) :
    ∃ k ≤ ms.length, (s.runMoves (ms.take k)).phaseOf i = .active id := by
  induction ms generalizing s with
  | nil => simp [before] at after
  | cons m ms ih =>
    rw [runMoves_cons] at after
    cases next : ((s.move m).phaseOf i).subscriptionId with
    | none =>
      obtain ⟨k, bound, active⟩ := ih next after
      exact ⟨k + 1, by simpa using bound, by simpa using active⟩
    | some id' =>
      have advance : (s.phaseOf i).Advance ((s.move m).phaseOf i) := by
        rcases phaseOf_move (s := s) (i := i) m with same | advance
        · simp [same, before] at next
        · exact advance
      have kept := subscriptionId_runMoves next ms
      rw [after, Option.some.injEq] at kept
      subst kept
      exact ⟨1, by simp, by simpa using advance.eq_active before next⟩

/-- From an operation without an id, a run ends with one exactly when the
operation was active at some point of it. -/
theorem subscriptionId_runMoves_isSome_iff (before : (s.phaseOf i).subscriptionId = none)
    (ms : List Move) :
    ((s.runMoves ms).phaseOf i).subscriptionId.isSome ↔
      ∃ k ≤ ms.length, ∃ id, (s.runMoves (ms.take k)).phaseOf i = .active id := by
  constructor
  · intro held
    obtain ⟨id, after⟩ := Option.isSome_iff_exists.mp held
    obtain ⟨k, bound, active⟩ := exists_active_of_subscriptionId before after
    exact ⟨k, bound, id, active⟩
  · rintro ⟨k, -, id, active⟩
    have held : ((s.runMoves (ms.take k)).phaseOf i).subscriptionId = some id := by
      simp [active, Phase.subscriptionId]
    have kept := subscriptionId_runMoves held (ms.drop k)
    rw [← runMoves_append, List.take_append_drop] at kept
    simp [kept]

theorem Initial.phaseOf (init : s.Initial) : s.phaseOf i = .idle := by
  cases hop : s.op? i with
  | none => simp [Session.phaseOf, hop]
  | some op => simp [Session.phaseOf, hop, (init op (List.mem_of_getElem? hop)).phase]

end Runs

/-- Along every run from operations as built, each operation holds its
candidates exactly while idle, the handle of its loop exactly while starting
or active, and its started flag exactly when its phase carries an id. Every
move keeps its phase or takes it one step of the lifecycle; so a terminal
phase is never left and an id, once given, is kept; and an operation ends
canceled or failed without an id exactly when it was never active. -/
theorem lifecycle_of_runMoves {s₀ s : Session} {ms : List Move} (init : s₀.Initial)
    (reached : s₀.runMoves ms = s) (i : Nat) :
    (∀ op, s.op? i = some op →
      (op.candidates.isSome ↔ op.phase = .idle) ∧
      (op.loopHandle ↔ op.phase.state = .starting ∨ op.phase.state = .active) ∧
      (op.acknowledged ↔ op.phase.subscriptionId.isSome)) ∧
    (∀ m, (s.move m).phaseOf i = s.phaseOf i ∨ (s.phaseOf i).Advance ((s.move m).phaseOf i)) ∧
    ((s.phaseOf i).state.isTerminal → ∀ more, (s.runMoves more).phaseOf i = s.phaseOf i) ∧
    (∀ id, (s.phaseOf i).subscriptionId = some id →
      ∀ more, ((s.runMoves more).phaseOf i).subscriptionId = some id) ∧
    (∀ x, (s.phaseOf i = .canceled x ∨ s.phaseOf i = .failed x) →
      (x = none ↔ ∀ k ≤ ms.length, ∀ id, (s₀.runMoves (ms.take k)).phaseOf i ≠ .active id)) := by
  subst reached
  refine ⟨?_, phaseOf_move, phaseOf_runMoves_of_terminal, fun id held => subscriptionId_runMoves held, ?_⟩
  · intro op hop
    have coherent := (init.coherent.runMoves ms) i
    simp only [CoherentAt, hop] at coherent
    exact ⟨coherent.candidates, coherent.loopHandle, coherent.acknowledged⟩
  · intro x ended
    have carried : ((s₀.runMoves ms).phaseOf i).subscriptionId = x := by
      rcases ended with ended | ended <;> simp [ended, Phase.subscriptionId]
    have before : (s₀.phaseOf i).subscriptionId = none := by simp [init.phaseOf, Phase.subscriptionId]
    have reach := subscriptionId_runMoves_isSome_iff before ms
    rw [carried] at reach
    cases x with
    | none => simpa using reach
    | some id => simpa using reach

theorem lifecycle_of_runMoves_single :
    oneOperation.Initial ∧
    ∀ op, (oneOperation.runMoves [.start 0, .loop 0, .cancel 0]).op? 0 = some op →
      (op.candidates.isSome ↔ op.phase = .idle) ∧
      (op.loopHandle ↔ op.phase.state = .starting ∨ op.phase.state = .active) ∧
      (op.acknowledged ↔ op.phase.subscriptionId.isSome) :=
  ⟨initial_oneOperation, (lifecycle_of_runMoves initial_oneOperation rfl 0).1⟩

end Session
end ModelSync
