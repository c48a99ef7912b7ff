import ModelSync.Subscription.Operation
import ModelSync.Log
/-!
A session: the subscription operations of one client, the endpoint they
talk to, the queue of loops due to run and of loops that gave up their turn,
a clock in seconds, the records
logged and not yet taken, and the registry of live operations.

Operations are numbered from 0 in the order they were created. The helpers
here read and change one operation, log, deliver events, and wake a loop.
-/
namespace ModelSync

/-- The operations of one client and what they share. -/
structure Session where
  operations : List Operation
  endpoint : ScriptedEndpoint
  /-- Operations whose loop is due to run, oldest wake-up first. -/
  runQueue : List Nat := []
  /-- Operations whose loop used up its reads for this turn and runs again
  after the caller's next yield, in the order they stopped. -/
  deferred : List Nat := []
  /-- Seconds since the session began. -/
  clock : Nat := 0
  /-- Records logged and not yet taken, oldest first. -/
  logs : List LogRecord := []
  /-- Registered operations, in registration order. -/
  registry : List Nat := []

namespace Session

/-- Operation `i`. -/
def op? (s : Session) (i : Nat) : Option Operation := s.operations[i]?

/-- The session with operation `i` changed. -/
def modifyOp (s : Session) (i : Nat) (f : Operation → Operation) : Session :=
  { s with operations := s.operations.modify i f }

/-- The phase of operation `i`. -/
def phaseOf (s : Session) (i : Nat) : Phase :=
  match s.op? i with
  | some op => op.phase
  | none => .idle

/-- The session with operation `i` in a new phase. -/
def setPhase (s : Session) (i : Nat) (phase : Phase) : Session :=
  s.modifyOp i fun op => { op with phase }

/-- The session with operation `i`'s abort handle dropped. -/
def dropHandle (s : Session) (i : Nat) : Session :=
  s.modifyOp i fun op => { op with loopHandle := false }

/-- The session with operation `i`'s task replaced. -/
def setTask (s : Session) (i : Nat) (task : Task) : Session :=
  s.modifyOp i fun op => { op with task }

/-- Logs a record from the given part of the client. -/
def logFrom (s : Session) (source : LogSource) (level : LogLevel) (message : String)
    (fields : List (String × JsonValue)) : Session :=
  { s with logs := s.logs ++ [⟨level, source, message, fields⟩] }

/-- Logs a record about a subscription's lifecycle. -/
def log (s : Session) (level : LogLevel) (message : String)
    (fields : List (String × JsonValue)) : Session :=
  s.logFrom .operation level message fields

/-- Delivers an event to operation `i`'s subscriber. -/
def emit (s : Session) (i : Nat) (event : SubscriptionEvent) : Session :=
  s.modifyOp i fun op => { op with events := op.events ++ [event] }

/-- Schedules operation `i`'s loop; a loop already due is not queued twice. -/
def wake (s : Session) (i : Nat) : Session :=
  if s.runQueue.contains i then s else { s with runQueue := s.runQueue ++ [i] }

/-- Reads the next event of a stream. -/
def receive (s : Session) (n : Nat) : Session × Received :=
  let (endpoint, received) := s.endpoint.receive n
  ({ s with endpoint }, received)

/-- The session after a loop let go of a stream. -/
def dropReceiver (s : Session) (n : Nat) : Session :=
  { s with endpoint := s.endpoint.dropReceiver n }

/-- Wakes the loop reading stream `n`, if it waits on it. -/
def wakeReader (s : Session) (n : Nat) : Session :=
  match s.endpoint.streams[n]? with
  | some stream =>
    match s.op? stream.owner with
    | some { task := .running point, .. } =>
      if point.stream? = some n then s.wake stream.owner else s
    | _ => s
  | none => s

/-- Releases a subscription at the endpoint; a failure is only logged. -/
def releaseQuietly (s : Session) (id : String) : Session :=
  let (endpoint, failure) := s.endpoint.release id
  let s := { s with endpoint }
  match failure with
  | some e =>
    s.log .warn "Failed to release subscription"
      [("subscription_id", .string id), ("error", .string e.message)]
  | none => s

/-- Fails operation `i` while it is still trying candidates. -/
def fail (s : Session) (i : Nat) (e : SubscriptionError) : Session :=
  if s.phaseOf i = .starting then
    (((s.setPhase i (.failed none)).dropHandle i).log .warn "Subscription failed"
      [("error", .string e.message)]).emit i (.error e)
  else s

/-- Ends an active operation `i` with an endpoint failure. -/
def terminateFailed (s : Session) (i : Nat) (id : String) (e : EndpointError) : Session :=
  (((s.setPhase i (.failed (some id))).dropHandle i).log .warn "Subscription failed"
    [("error", .string e.message)]).emit i (.error (.endpoint e))

/-- Accepts the first acknowledgment for operation `i`; one arriving when the
operation is no longer starting, or after another was accepted, is released
and refused. -/
def activate (s : Session) (i : Nat) (id : String) : Session × Bool :=
  let fresh := match s.op? i with
    | some op => !op.acknowledged
    | none => false
  if s.phaseOf i = .starting && fresh then
    let s := (s.setPhase i (.active id)).modifyOp i ({ · with acknowledged := true })
    let s := s.log .info "Subscription started" [("subscription_id", .string id)]
    (s.emit i (.started id), true)
  else (s.releaseQuietly id, false)

end Session
end ModelSync
