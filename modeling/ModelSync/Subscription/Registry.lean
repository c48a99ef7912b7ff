import ModelSync.Subscription.Runtime
/-!
The registry of a client's live subscriptions. Creating a subscription
prunes the registry of finished ones and registers the new one; shutting down
cancels every registered subscription. Each change is logged.
-/
namespace ModelSync
namespace Session

/-- Registers operation `i`; registering it again keeps its one entry. -/
def register (s : Session) (i : Nat) : Session :=
  let registry := if s.registry.contains i then s.registry else s.registry ++ [i]
  { s with registry }.logFrom .registry .debug "Subscription registered" []

/-- Removes finished operations from the registry; how many were removed. -/
def prune (s : Session) : Session × Nat :=
  let kept := s.registry.filter fun i => !(s.phaseOf i).state.isTerminal
  ({ s with registry := kept }, s.registry.length - kept.length)

/-- Removes operation `i` from the registry; whether it was registered. -/
def unregister (s : Session) (i : Nat) : Session × Bool :=
  if s.registry.contains i then
    ({ s with registry := s.registry.erase i }.logFrom .registry .debug
      "Subscription unregistered" [], true)
  else (s, false)

/-- The state of operation `i`, if it is registered. -/
def registeredState (s : Session) (i : Nat) : Option SubscriptionState :=
  if s.registry.contains i then some (s.phaseOf i).state else none

/-- Removes and cancels every registered operation; how many there were. -/
def cancelAll (s : Session) : Session × Nat :=
  let ids := s.registry
  let s := ids.foldl cancel { s with registry := [] }
  (s.logFrom .registry .info "Canceled all subscriptions" [("canceled", .nat ids.length)],
   ids.length)

/-- Adds a subscription created by the client: prunes the registry, registers
the new operation and logs its creation. Returns its number. -/
def subscribe (s : Session) (op : Operation) (model : String) : Session × Nat :=
  let i := s.operations.length
  let s := { s with operations := s.operations ++ [op] }
  let (s, _) := s.prune
  let s := (s.register i).logFrom .client .debug "Subscription created"
    [("model", .string model), ("field", .string op.request.field)]
  (s, i)

end Session
end ModelSync
