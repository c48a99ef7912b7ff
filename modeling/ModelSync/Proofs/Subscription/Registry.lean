import ModelSync.Proofs.Subscription.Control
import ModelSync.Subscription.Registry
/-!
The registry of a client's subscriptions, along every run of the client.

A run interleaves the client's calls with the moves of its subscriptions'
parties (`Move`): creating a subscription, which prunes the registry and then
registers the new operation; registering and unregistering an operation;
pruning; and shutting down, which cancels every registered operation. The
moves of the parties never touch the registry or the number of operations
(`Session.registryKept_move`).

Along every run the registry is a map keyed by operation: no key twice, and
each key an operation of the session (`Session.Keyed`). Pruning removes
exactly the entries whose state is terminal and counts them. Shutting down
empties the registry, cancels each entry once and counts them; since a
cancellation ends every phase (`Session.terminal_cancel`) and a terminal
phase is never left, every operation registered and not unregistered since
has ended for good after a shutdown. Main statement:
`Session.registry_of_runClient`.
-/
namespace ModelSync

/-- One call of a client's user, or one move of the parties of its subscriptions. -/
inductive ClientMove where
  /-- The client creates a subscription to `model`, with operation `op`. -/
  | subscribe (op : Operation) (model : String)
  /-- Operation `i` is registered. -/
  | register (i : Nat)
  /-- Operation `i` is unregistered. -/
  | unregister (i : Nat)
  /-- Operations that have ended are pruned from the registry. -/
  | prune
  /-- The client shuts down: every registered operation is canceled. -/
  | shutdown
  /-- A move of the subscriptions' parties. -/
  | session (m : Move)

namespace Session

/-- The session after a client move. Only an operation of the session can be
registered. -/
def clientMove (s : Session) : ClientMove → Session
  | .subscribe op model => (s.subscribe op model).1
  | .register i => if i < s.operations.length then s.register i else s
  | .unregister i => (s.unregister i).1
  | .prune => s.prune.1
  | .shutdown => s.cancelAll.1
  | .session m => s.move m

/-- The session after a run of client moves. -/
def runClient (s : Session) (ms : List ClientMove) : Session := ms.foldl clientMove s

@[simp] theorem runClient_nil (s : Session) : s.runClient [] = s := rfl

@[simp] theorem runClient_cons (s : Session) (m : ClientMove) (ms : List ClientMove) :
    s.runClient (m :: ms) = (s.clientMove m).runClient ms := rfl

theorem runClient_append (s : Session) (ms ms' : List ClientMove) :
    s.runClient (ms ++ ms') = (s.runClient ms).runClient ms' :=
  List.foldl_append ..

/-! ## The parties' moves leave the registry alone -/

section Frame

variable (s : Session) (i n : Nat)

@[simp] theorem registry_modifyOp (f : Operation → Operation) : (s.modifyOp i f).registry = s.registry :=
  rfl

@[simp] theorem length_modifyOp (f : Operation → Operation) :
    (s.modifyOp i f).operations.length = s.operations.length :=
  List.length_modify ..

@[simp] theorem registry_logFrom (source : LogSource) (level : LogLevel) (message : String)
    (fields : List (String × JsonValue)) : (s.logFrom source level message fields).registry = s.registry :=
  rfl

@[simp] theorem registry_log (level : LogLevel) (message : String) (fields : List (String × JsonValue)) :
    (s.log level message fields).registry = s.registry := rfl

@[simp] theorem registry_wake : (s.wake i).registry = s.registry := by
  unfold wake; split <;> rfl

@[simp] theorem operations_wake : (s.wake i).operations = s.operations := by
  unfold wake; split <;> rfl

@[simp] theorem registry_releaseQuietly (id : String) : (s.releaseQuietly id).registry = s.registry := by
  unfold releaseQuietly ScriptedEndpoint.release
  cases s.endpoint.releaseError <;> rfl

@[simp] theorem operations_releaseQuietly (id : String) :
    (s.releaseQuietly id).operations = s.operations := by
  unfold releaseQuietly ScriptedEndpoint.release
  cases s.endpoint.releaseError <;> rfl

@[simp] theorem registry_fail (e : SubscriptionError) : (s.fail i e).registry = s.registry := by
  unfold fail; split <;> rfl

@[simp] theorem length_fail (e : SubscriptionError) :
    (s.fail i e).operations.length = s.operations.length := by
  unfold fail; split <;> simp [setPhase, dropHandle, emit]

@[simp] theorem registry_terminateFailed (id : String) (e : EndpointError) :
    (s.terminateFailed i id e).registry = s.registry := rfl

@[simp] theorem length_terminateFailed (id : String) (e : EndpointError) :
    (s.terminateFailed i id e).operations.length = s.operations.length := by
  simp [terminateFailed, setPhase, dropHandle, emit]

@[simp] theorem registry_activate (id : String) : (s.activate i id).1.registry = s.registry := by
  unfold activate; dsimp only; split <;> split <;> simp [setPhase, emit]

@[simp] theorem length_activate (id : String) :
    (s.activate i id).1.operations.length = s.operations.length := by
  unfold activate; dsimp only; split <;> split <;> simp [setPhase, emit]

/-- `t` has the registry of `s` and as many operations. -/
structure RegistryKept (s t : Session) : Prop where
  registry : t.registry = s.registry
  length : t.operations.length = s.operations.length

theorem RegistryKept.trans {s t u : Session} (first : RegistryKept s t) (second : RegistryKept t u) :
    RegistryKept s u :=
  ⟨second.registry.trans first.registry, second.length.trans first.length⟩

theorem registryKept_stepLoop (point : LoopPoint) : RegistryKept s (s.stepLoop i point).1 := by
  unfold stepLoop choose reject forwardEvent
  dsimp only
  repeat' split
  all_goals constructor <;> simp [setPhase, dropHandle, emit, receive, dropReceiver]

theorem registryKept_cancel : RegistryKept s (s.cancel i) := by
  unfold cancel signalCancel abort
  dsimp only
  repeat' split
  all_goals constructor <;> simp [setPhase, setTask, dropHandle, emit]

theorem registryKept_start : RegistryKept s (s.start i) := by
  unfold start
  repeat' split
  all_goals constructor <;> simp [emit]

/-- The moves of a subscription's parties leave the registry and the number
of operations alone. -/
theorem registryKept_move (m : Move) : RegistryKept s (s.move m) := by
  cases m with
  | start j => exact registryKept_start s j
  | cancel j => exact registryKept_cancel s j
  | loop j =>
    simp only [move, loopMove]
    split
    · exact (registryKept_stepLoop s j _).trans ⟨rfl, by simp [setTask]⟩
    · exact ⟨rfl, rfl⟩
  | drop j =>
    simp only [move, dropMove]
    split
    · -- an aborted loop lets go of its stream, if it reads one, and is gone
      rename_i point aborted
      cases hop : s.op? j with
      | none => simp [taskOf, hop] at aborted
      | some op =>
        have task : op.task = .aborting point := by simpa [taskOf, hop] using aborted
        simp only [runTask, hop, task]
        split <;> constructor <;> simp [setTask, dropReceiver]
    · exact ⟨rfl, rfl⟩
  | expire j => simp only [move, expireMove]; split <;> constructor <;> simp [setTask]
  | timeout j => simp only [move, timeoutMove]; split <;> constructor <;> simp [setTask, dropReceiver]
  | send | close => exact ⟨rfl, rfl⟩

theorem registryKept_runMoves (ms : List Move) : RegistryKept s (s.runMoves ms) := by
  induction ms generalizing s with
  | nil => exact ⟨rfl, rfl⟩
  | cons m ms ih => exact (registryKept_move s m).trans (ih (s.move m))

end Frame

/-! ## The registry's own calls -/

section Calls

variable {s : Session} {i k : Nat} {op : Operation} {model : String}

/-- The phase of an operation is read off the operations alone. -/
theorem phaseOf_of_operations {t : Session} (same : t.operations = s.operations) :
    t.phaseOf i = s.phaseOf i := by
  unfold phaseOf op?
  rw [same]

/-- Only an operation of the session can have ended. -/
theorem lt_length_of_terminal (terminal : (s.phaseOf i).state.isTerminal) : i < s.operations.length := by
  refine Nat.lt_of_not_le fun beyond => ?_
  have none : s.op? i = none := List.getElem?_eq_none beyond
  simp [phaseOf, none, Phase.state, SubscriptionState.isTerminal] at terminal

theorem mem_registry_register : k ∈ (s.register i).registry ↔ k ∈ s.registry ∨ k = i := by
  unfold register
  split
  · rename_i held
    have present : i ∈ s.registry := by simpa using held
    simp only [registry_logFrom]
    constructor
    · exact Or.inl
    · rintro (mem | rfl) <;> assumption
  · simp

@[simp] theorem operations_register : (s.register i).operations = s.operations := rfl

/-- Pruning keeps exactly the entries whose state is not terminal. -/
theorem mem_registry_prune :
    k ∈ s.prune.1.registry ↔ k ∈ s.registry ∧ (s.phaseOf k).state.isTerminal = false := by
  simp [prune]

@[simp] theorem operations_prune : s.prune.1.operations = s.operations := rfl

/-- Pruning counts the entries whose state is terminal. -/
theorem prune_count : s.prune.2 = (s.registry.filter fun k => (s.phaseOf k).state.isTerminal).length := by
  have split := List.length_eq_countP_add_countP (fun k => (s.phaseOf k).state.isTerminal) (l := s.registry)
  simp only [List.countP_eq_length_filter] at split
  simp only [prune]
  grind

theorem registry_unregister : (s.unregister i).1.registry = s.registry.erase i := by
  unfold unregister
  split
  · rfl
  · rename_i absent
    rw [List.erase_of_not_mem (by simpa using absent)]

@[simp] theorem operations_unregister : (s.unregister i).1.operations = s.operations := by
  unfold unregister; split <;> rfl

/-- Shutting down empties the registry, then cancels every entry once, in
the order they were registered, and reports how many there were. -/
theorem cancelAll_eq :
    s.cancelAll = (({ s with registry := [] }.runMoves (s.registry.map .cancel)).logFrom .registry .info
      "Canceled all subscriptions" [("canceled", .nat s.registry.length)], s.registry.length) := by
  simp [cancelAll, runMoves, List.foldl_map, move]

theorem registry_cancelAll : s.cancelAll.1.registry = [] := by
  rw [cancelAll_eq, registry_logFrom, (registryKept_runMoves _ _).registry]

/-- Creating a subscription adds its operation, prunes the registry, then
registers the operation under its number. -/
theorem subscribe_eq :
    s.subscribe op model =
      ((({ s with operations := s.operations ++ [op] } : Session).prune.1.register
          s.operations.length).logFrom .client .debug "Subscription created"
          [("model", .string model), ("field", .string op.request.field)],
       s.operations.length) := rfl

/-- Creating a subscription registers the operation it returns under that
operation's own number. -/
theorem subscribe_registers :
    (s.subscribe op model).1.op? (s.subscribe op model).2 = some op ∧
    (s.subscribe op model).2 ∈ (s.subscribe op model).1.registry := by
  rw [subscribe_eq]
  exact ⟨by simp [op?], mem_registry_register.mpr (.inr rfl)⟩

/-- Adding an operation keeps the phase of every operation there was. -/
theorem phaseOf_append (lt : i < s.operations.length) :
    ({ s with operations := s.operations ++ [op] } : Session).phaseOf i = s.phaseOf i := by
  unfold phaseOf op?
  rw [List.getElem?_append_left lt]

end Calls

/-! ## The registry is a map keyed by operation -/

/-- The registry holds no key twice, and each key is an operation of the session. -/
structure Keyed (s : Session) : Prop where
  nodup : s.registry.Nodup
  bound : ∀ k ∈ s.registry, k < s.operations.length

section Keyed

variable {s : Session} {i : Nat} {op : Operation} {model : String}

theorem Keyed.of_kept {t : Session} (keyed : s.Keyed) (kept : RegistryKept s t) : t.Keyed :=
  ⟨kept.registry ▸ keyed.nodup, fun k mem => kept.length ▸ keyed.bound k (kept.registry ▸ mem)⟩

theorem Keyed.register (keyed : s.Keyed) (lt : i < s.operations.length) : (s.register i).Keyed := by
  constructor
  · unfold Session.register
    split
    · exact keyed.nodup
    · rename_i absent
      have fresh : i ∉ s.registry := by simpa using absent
      refine List.nodup_append.mpr ⟨keyed.nodup, by simp, ?_⟩
      intro k mem j single same
      rw [List.mem_singleton] at single
      exact fresh (single ▸ same ▸ mem)
  · intro k mem
    rcases mem_registry_register.mp mem with mem | rfl
    · exact keyed.bound k mem
    · exact lt

theorem Keyed.prune (keyed : s.Keyed) : s.prune.1.Keyed :=
  ⟨keyed.nodup.sublist List.filter_sublist,
   fun k mem => keyed.bound k (mem_registry_prune.mp mem).1⟩

theorem Keyed.unregister (keyed : s.Keyed) : (s.unregister i).1.Keyed := by
  constructor
  · rw [registry_unregister]
    exact keyed.nodup.erase i
  · intro k mem
    rw [registry_unregister] at mem
    rw [operations_unregister]
    exact keyed.bound k (List.mem_of_mem_erase mem)

theorem Keyed.cancelAll : s.cancelAll.1.Keyed := by
  constructor <;> simp [registry_cancelAll]

/-- A new operation takes a number no key holds, so creating a subscription
registers a fresh key. -/
theorem Keyed.subscribe (keyed : s.Keyed) : (s.subscribe op model).1.Keyed := by
  have added : ({ s with operations := s.operations ++ [op] } : Session).Keyed :=
    ⟨keyed.nodup, fun k mem => by simpa using Nat.lt_succ_of_lt (keyed.bound k mem)⟩
  rw [subscribe_eq]
  exact (added.prune.register (by simp)).of_kept ⟨rfl, rfl⟩

theorem Keyed.move (keyed : s.Keyed) (m : Move) : (s.move m).Keyed :=
  keyed.of_kept (registryKept_move s m)

theorem Keyed.clientMove (keyed : s.Keyed) (m : ClientMove) : (s.clientMove m).Keyed := by
  cases m with
  | subscribe op model => exact keyed.subscribe
  | register i =>
    simp only [Session.clientMove]
    split
    · exact keyed.register ‹_›
    · exact keyed
  | unregister i => exact keyed.unregister
  | prune => exact keyed.prune
  | shutdown => exact Keyed.cancelAll
  | session m => exact keyed.move m

/-- Every run keeps the registry a map keyed by operation. -/
theorem Keyed.runClient (keyed : s.Keyed) (ms : List ClientMove) : (s.runClient ms).Keyed := by
  induction ms generalizing s with
  | nil => exact keyed
  | cons m ms ih => exact ih (keyed.clientMove m)

end Keyed

/-! ## Ended operations stay ended -/

section Ended

variable {s : Session} {i : Nat}

/-- No client move takes an operation out of a terminal phase. -/
theorem phaseOf_clientMove_of_terminal (terminal : (s.phaseOf i).state.isTerminal) (m : ClientMove) :
    (s.clientMove m).phaseOf i = s.phaseOf i := by
  cases m with
  | subscribe op model =>
    rw [clientMove, subscribe_eq]
    exact (phaseOf_of_operations rfl).trans (phaseOf_append (lt_length_of_terminal terminal))
  | register j =>
    simp only [clientMove]
    split
    · exact phaseOf_of_operations rfl
    · rfl
  | unregister j => exact phaseOf_of_operations operations_unregister
  | prune => rfl
  | shutdown =>
    rw [clientMove, cancelAll_eq]
    exact (phaseOf_of_operations rfl).trans
      (phaseOf_runMoves_of_terminal (s := { s with registry := [] }) terminal _)
  | session m => exact phaseOf_runMoves_of_terminal terminal [m]

/-- A terminal phase is kept along every run. -/
theorem phaseOf_runClient_of_terminal (terminal : (s.phaseOf i).state.isTerminal) (ms : List ClientMove) :
    (s.runClient ms).phaseOf i = s.phaseOf i := by
  induction ms generalizing s with
  | nil => rfl
  | cons m ms ih =>
    have kept := phaseOf_clientMove_of_terminal terminal m
    rw [runClient_cons, ih (kept ▸ terminal), kept]

/-- Canceling operations one after another ends each of the session's that is among them. -/
theorem terminal_runMoves_cancel {ids : List Nat} (mem : i ∈ ids) (held : (s.op? i).isSome) :
    ((s.runMoves (ids.map .cancel)).phaseOf i).state.isTerminal := by
  induction ids generalizing s with
  | nil => simp at mem
  | cons j ids ih =>
    rw [List.map_cons, runMoves_cons, move]
    by_cases same : j = i
    · -- canceled here, and ended for the rest of the run
      subst same
      obtain ⟨op, hop⟩ := Option.isSome_iff_exists.mp held
      have ended := terminal_cancel (s := s) hop
      rw [phaseOf_runMoves_of_terminal ended]
      exact ended
    · have later : i ∈ ids := (List.mem_cons.mp mem).resolve_left (Ne.symm same)
      apply ih later
      rwa [op?_cancel_ne s (Ne.symm same)]

/-- Shutting down ends every registered operation. -/
theorem terminal_cancelAll (keyed : s.Keyed) (mem : i ∈ s.registry) :
    (s.cancelAll.1.phaseOf i).state.isTerminal := by
  have held : (s.op? i).isSome := by
    rw [op?, List.getElem?_eq_getElem (keyed.bound i mem)]
    rfl
  rw [cancelAll_eq]
  exact terminal_runMoves_cancel mem held

end Ended

/-! ## Shutting down ends every registered operation for good -/

/-- Operation `i` will have ended after a shutdown: it is registered, or has
ended already. -/
def Covered (s : Session) (i : Nat) : Prop :=
  i ∈ s.registry ∨ (s.phaseOf i).state.isTerminal

/-- Operation `i` is registered at some point of a run from `s`, and no later
move of the run unregisters it. -/
def RegisteredAlong (s : Session) (ms : List ClientMove) (i : Nat) : Prop :=
  ∃ k, i ∈ (s.runClient (ms.take k)).registry ∧ ClientMove.unregister i ∉ ms.drop k

section Covered

variable {s : Session} {i : Nat}

/-- Every move but unregistering `i` keeps `i` covered: pruning drops only
ended operations, and shutting down ends those it drops. -/
theorem Covered.clientMove (keyed : s.Keyed) (covered : s.Covered i) {m : ClientMove}
    (kept : m ≠ .unregister i) : (s.clientMove m).Covered i := by
  by_cases terminal : (s.phaseOf i).state.isTerminal
  · exact .inr (by rw [phaseOf_clientMove_of_terminal terminal]; exact terminal)
  · have mem : i ∈ s.registry := covered.resolve_right terminal
    have live : (s.phaseOf i).state.isTerminal = false := by simpa using terminal
    cases m with
    | subscribe op model =>
      -- the new operation leaves `i`'s phase alone, so pruning keeps `i`
      have kept : i ∈ ({ s with operations := s.operations ++ [op] } : Session).prune.1.registry := by
        rw [mem_registry_prune, phaseOf_append (keyed.bound i mem)]
        exact ⟨mem, live⟩
      exact .inl (by rw [Session.clientMove, subscribe_eq]; exact mem_registry_register.mpr (.inl kept))
    | register j =>
      simp only [Session.clientMove]
      split
      · exact .inl (mem_registry_register.mpr (.inl mem))
      · exact .inl mem
    | unregister j =>
      have other : i ≠ j := fun same => kept (same ▸ rfl)
      exact .inl (by rw [Session.clientMove, registry_unregister]; exact (List.mem_erase_of_ne other).mpr mem)
    | prune => exact .inl (mem_registry_prune.mpr ⟨mem, live⟩)
    | shutdown => exact .inr (terminal_cancelAll keyed mem)
    | session m => exact .inl (by rw [Session.clientMove, (registryKept_move s m).registry]; exact mem)

/-- A run that never unregisters `i` keeps it covered. -/
theorem Covered.runClient (keyed : s.Keyed) (covered : s.Covered i) {ms : List ClientMove}
    (kept : ClientMove.unregister i ∉ ms) : (s.runClient ms).Covered i := by
  induction ms generalizing s with
  | nil => exact covered
  | cons m ms ih =>
    obtain ⟨first, rest⟩ := List.ne_and_not_mem_of_not_mem_cons kept
    exact ih (keyed.clientMove m) (covered.clientMove keyed (Ne.symm first)) rest

/-- After a shutdown, every operation registered along the run before it and
not unregistered since has ended, and stays ended whatever follows. -/
theorem terminal_of_registeredAlong (keyed : s.Keyed) {before : List ClientMove}
    (registered : s.RegisteredAlong before i) (after : List ClientMove) :
    ((s.runClient (before ++ .shutdown :: after)).phaseOf i).state.isTerminal := by
  obtain ⟨k, mem, kept⟩ := registered
  have covered : (s.runClient before).Covered i := by
    have later := Covered.runClient (keyed.runClient (before.take k)) (.inl mem) kept
    rwa [← runClient_append, List.take_append_drop] at later
  have ended : (((s.runClient before).clientMove .shutdown).phaseOf i).state.isTerminal := by
    rcases covered with mem | terminal
    · exact terminal_cancelAll (keyed.runClient before) mem
    · rwa [phaseOf_clientMove_of_terminal terminal]
  rw [runClient_append, runClient_cons, phaseOf_runClient_of_terminal ended]
  exact ended

end Covered

/-- Along every run of a client from a registry keyed by operation, the
registry stays so keyed: no key twice, each key an operation of the session,
and a new subscription's operation registered under its own number. Pruning keeps exactly the entries whose state is not terminal, changes no
operation, and counts the entries it removes. Shutting down empties the
registry, cancels each entry once, in registration order, and counts the
entries; and every operation registered along the run and not unregistered
since has then ended, whatever follows. -/
theorem registry_of_runClient {s₀ s : Session} {ms : List ClientMove} (keyed : s₀.Keyed)
    (reached : s₀.runClient ms = s) :
    s.registry.Nodup ∧ (∀ k ∈ s.registry, k < s.operations.length) ∧
    (∀ op model, (s.subscribe op model).1.op? (s.subscribe op model).2 = some op ∧
      (s.subscribe op model).2 ∈ (s.subscribe op model).1.registry) ∧
    (∀ k, k ∈ s.prune.1.registry ↔ k ∈ s.registry ∧ (s.phaseOf k).state.isTerminal = false) ∧
    s.prune.1.operations = s.operations ∧
    s.prune.2 = (s.registry.filter fun k => (s.phaseOf k).state.isTerminal).length ∧
    s.cancelAll.1.registry = [] ∧
    s.cancelAll.1 = ({ s with registry := [] }.runMoves (s.registry.map .cancel)).logFrom .registry .info
      "Canceled all subscriptions" [("canceled", .nat s.registry.length)] ∧
    s.cancelAll.2 = s.registry.length ∧
    (∀ i, s₀.RegisteredAlong ms i → ∀ after,
      ((s₀.runClient (ms ++ .shutdown :: after)).phaseOf i).state.isTerminal) := by
  have keyedS : s.Keyed := reached ▸ keyed.runClient ms
  refine ⟨keyedS.nodup, keyedS.bound, fun _ _ => subscribe_registers, fun k => mem_registry_prune,
    operations_prune, prune_count,
    registry_cancelAll, by rw [cancelAll_eq], by rw [cancelAll_eq], ?_⟩
  intro i registered after
  exact terminal_of_registeredAlong keyed registered after

/-- A client with no operations yet, before an endpoint with no answers. -/
def noOperations : Session := { operations := [], endpoint := { script := [] } }

/-- Two subscriptions of the default request, the first started in between. -/
def twoSubscriptions : List ClientMove :=
  [.subscribe Operation.byApiKey "Post", .session (.start 0), .subscribe Operation.byApiKey "Post"]

theorem registry_of_runClient_two_subscriptions :
    noOperations.Keyed ∧ (noOperations.runClient twoSubscriptions).cancelAll.2 = 2 ∧
    ((noOperations.runClient (twoSubscriptions ++ [.shutdown])).phaseOf 0).state.isTerminal := by
  have keyed : noOperations.Keyed := ⟨List.nodup_nil, fun k mem => by simp [noOperations] at mem⟩
  have spec := @registry_of_runClient _ _ twoSubscriptions keyed rfl
  refine ⟨keyed, ?_, spec.2.2.2.2.2.2.2.2.2 0 ⟨1, by decide, by simp [twoSubscriptions]⟩ []⟩
  rw [spec.2.2.2.2.2.2.2.2.1]
  rfl

end Session
end ModelSync
