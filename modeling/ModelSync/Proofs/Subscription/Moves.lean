import ModelSync.Subscription.Runtime
/-!
Runs of a session under every interleaving of its parties. The subscriber
starts and cancels operations; each operation's loop takes one step at a time
from where it stands; an aborted loop is dropped; a late-acknowledgment window
may close at any moment; and the endpoint sends any event on any stream, or
drops any stream's sending end. A run is any list of such moves, and a move
that cannot be taken leaves the session as it is.

A loop step is `Session.stepLoop`, the code between two points where the loop
waits or takes the operation's lock. Reading an acknowledgment and accepting
it are two steps, so a cancellation can come between them. The runtime of
`Subscription.Runtime` is one schedule of these moves.

Along a run we also record, for each operation, the acknowledgments its loop
consumed and the subscriptions it released (`Session.along`).
-/
namespace ModelSync

/-- One move of a session's parties. -/
inductive Move where
  /-- The subscriber starts operation `i`. -/
  | start (i : Nat)
  /-- The subscriber cancels operation `i`. -/
  | cancel (i : Nat)
  /-- Operation `i`'s loop takes one step. -/
  | loop (i : Nat)
  /-- Operation `i`'s aborted loop is dropped. -/
  | drop (i : Nat)
  /-- The timer of operation `i`'s drain goes off. -/
  | expire (i : Nat)
  /-- Operation `i`'s drain stops listening at once: its window closed. -/
  | timeout (i : Nat)
  /-- The endpoint sends an event on stream `n`. -/
  | send (n : Nat) (event : EndpointEvent)
  /-- The endpoint drops stream `n`'s sending end. -/
  | close (n : Nat)

/-- The operation a move belongs to; the endpoint's moves belong to none. -/
def Move.owner : Move → Option Nat
  | .start i | .cancel i | .loop i | .drop i | .expire i | .timeout i => some i
  | .send .. | .close _ => none

/-- The task a loop is left with after a step. -/
def LoopStep.task : LoopStep → Task
  | .proceed point | .park point => .running point
  | .finish => .none

/-- An operation as built: idle with its candidates, no loop, nothing delivered. -/
structure Operation.Fresh (op : Operation) : Prop where
  phase : op.phase = .idle
  candidates : op.candidates.isSome
  task : op.task = .none
  loopHandle : op.loopHandle = false
  acknowledged : op.acknowledged = false
  canceled : op.canceled = false
  events : op.events = []

theorem Operation.fresh_new (request : Request) (source : CandidateSource) (decorator : Decorator) :
    (Operation.new request source decorator).Fresh :=
  ⟨rfl, rfl, rfl, rfl, rfl, rfl, rfl⟩

/-- The operation built on the default request, tried with an API key and
sent undecorated. -/
def Operation.byApiKey : Operation := Operation.new default (.fixed .apiKey) .passThrough

namespace Session

/-- A session whose operations are all as built. -/
def Initial (s : Session) : Prop := ∀ op ∈ s.operations, op.Fresh

/-- A session holding one operation as built, before an endpoint with no answers. -/
def oneOperation : Session :=
  { operations := [Operation.byApiKey], endpoint := { script := [] } }

theorem initial_oneOperation : oneOperation.Initial := by
  intro op mem
  simp only [oneOperation, List.mem_singleton] at mem
  exact mem ▸ Operation.fresh_new _ _ _

/-- The task of operation `i`; none for an operation the session does not have. -/
def taskOf (s : Session) (i : Nat) : Task :=
  match s.op? i with
  | some op => op.task
  | none => .none

/-- One step of operation `i`'s loop, if it is running. -/
def loopMove (s : Session) (i : Nat) : Session :=
  match s.taskOf i with
  | .running point =>
    let (s, next) := s.stepLoop i point
    s.setTask i next.task
  | _ => s

/-- Operation `i`'s aborted loop lets go of its stream and is dropped. -/
def dropMove (s : Session) (i : Nat) : Session :=
  match s.taskOf i with
  | .aborting _ => s.runTask i
  | _ => s

/-- The timer of operation `i`'s drain goes off; the drain ends once it finds
nothing to read. -/
def expireMove (s : Session) (i : Nat) : Session :=
  match s.taskOf i with
  | .running (.draining n deadline false) => s.setTask i (.running (.draining n deadline true))
  | _ => s

/-- Operation `i`'s drain stops listening, whatever its stream still holds. -/
def timeoutMove (s : Session) (i : Nat) : Session :=
  match s.taskOf i with
  | .running (.draining n _ _) => (s.dropReceiver n).setTask i .none
  | _ => s

/-- The session after a move. -/
def move (s : Session) : Move → Session
  | .start i => s.start i
  | .cancel i => s.cancel i
  | .loop i => s.loopMove i
  | .drop i => s.dropMove i
  | .expire i => s.expireMove i
  | .timeout i => s.timeoutMove i
  | .send n event => { s with endpoint := (s.endpoint.send n event).1 }
  | .close n => { s with endpoint := s.endpoint.closeSender n }

/-- The session after a run. -/
def runMoves (s : Session) (ms : List Move) : Session := ms.foldl move s

/-- What `f` picks out of each move of a run, in order, each move seen from
the session it is taken in. -/
def along {α : Type} (f : Session → Move → Option α) (s : Session) : List Move → List α
  | [] => []
  | m :: ms => (f s m).toList ++ along f (s.move m) ms

/-- The acknowledgment stream `n` delivers next, if that is what it holds. -/
def startedOn (s : Session) (n : Nat) : Option String :=
  match (s.receive n).2 with
  | .event (.started id) => some id
  | _ => none

/-- The acknowledgment operation `i`'s loop consumes in its next step: one
read while it waits for the start and has not been canceled, or one read
while it drains a canceled attempt. -/
def ackTaken (s : Session) (i : Nat) : Option String :=
  match s.op? i with
  | some op =>
    match op.task with
    | .running (.awaitingStart a) => if op.canceled then none else s.startedOn a.stream
    | .running (.draining n _ _) => s.startedOn n
    | _ => none
  | none => none

/-- The subscription operation `i`'s loop releases in its next step: an active
subscription whose next item cannot be decoded; after a cancellation, an
acknowledgment read before it and turned down on acceptance, or one read
while draining, before the stream ended or the window closed. -/
def releaseTaken (s : Session) (i : Nat) : Option String :=
  match s.taskOf i, s.phaseOf i with
  | .running (.forwarding n), .active id =>
    match (s.receive n).2 with
    | .event (.next payload) =>
      match Response.ofJson payload with
      | .error _ => some id
      | .ok _ => none
    | _ => none
  | .running (.activating _ id), .canceled none => some id
  | .running (.draining n _ _), .canceled none => s.startedOn n
  | _, _ => none

/-- The acknowledgment operation `i` consumes in a move. -/
def ackIn (s : Session) (i : Nat) : Move → Option String
  | .loop j => if j = i then s.ackTaken i else none
  | _ => none

/-- The subscription operation `i` releases in a move: its active one when it
is canceled, or what its loop releases. -/
def releaseIn (s : Session) (i : Nat) : Move → Option String
  | .cancel j => if j = i then (s.phaseOf i).activeId else none
  | .loop j => if j = i then s.releaseTaken i else none
  | _ => none

/-- The subscription a move releases, whichever operation it belongs to. -/
def releaseOf (s : Session) (m : Move) : Option String :=
  match m.owner with
  | some i => s.releaseIn i m
  | none => none

@[simp] theorem runMoves_nil (s : Session) : s.runMoves [] = s := rfl

@[simp] theorem runMoves_cons (s : Session) (m : Move) (ms : List Move) :
    s.runMoves (m :: ms) = (s.move m).runMoves ms := rfl

theorem runMoves_append (s : Session) (ms ms' : List Move) :
    s.runMoves (ms ++ ms') = (s.runMoves ms).runMoves ms' :=
  List.foldl_append ..

@[simp] theorem along_nil {α : Type} (f : Session → Move → Option α) (s : Session) :
    along f s [] = [] := rfl

@[simp] theorem along_cons {α : Type} (f : Session → Move → Option α) (s : Session) (m : Move)
    (ms : List Move) : along f s (m :: ms) = (f s m).toList ++ along f (s.move m) ms := rfl

/-! ## Where each helper acts -/

section Frame

variable (s : Session) (i j n : Nat)

@[simp] theorem op?_modifyOp (f : Operation → Operation) :
    (s.modifyOp i f).op? j = if j = i then (s.op? j).map f else s.op? j := by
  by_cases same : j = i
  · subst same
    simp [op?, modifyOp]
  · simp [op?, modifyOp, List.getElem?_modify_ne _ _ (Ne.symm same), same]

@[simp] theorem op?_mk (operations : List Operation) (endpoint : ScriptedEndpoint)
    (runQueue deferred : List Nat) (clock : Nat) (logs : List LogRecord) (registry : List Nat) :
    ({ operations, endpoint, runQueue, deferred, clock, logs, registry } : Session).op? j =
      operations[j]? := rfl

@[simp] theorem getElem?_operations : s.operations[j]? = s.op? j := rfl

@[simp] theorem operations_logFrom (source : LogSource) (level : LogLevel) (message : String)
    (fields : List (String × JsonValue)) : (s.logFrom source level message fields).operations = s.operations :=
  rfl

@[simp] theorem operations_log (level : LogLevel) (message : String)
    (fields : List (String × JsonValue)) : (s.log level message fields).operations = s.operations :=
  rfl

@[simp] theorem op?_logFrom (source : LogSource) (level : LogLevel) (message : String)
    (fields : List (String × JsonValue)) : (s.logFrom source level message fields).op? j = s.op? j :=
  rfl

@[simp] theorem op?_log (level : LogLevel) (message : String) (fields : List (String × JsonValue)) :
    (s.log level message fields).op? j = s.op? j := rfl

@[simp] theorem op?_wake : (s.wake i).op? j = s.op? j := by
  unfold wake; split <;> rfl

@[simp] theorem op?_receive : (s.receive n).1.op? j = s.op? j := rfl

@[simp] theorem op?_dropReceiver : (s.dropReceiver n).op? j = s.op? j := rfl

@[simp] theorem op?_releaseQuietly (id : String) : (s.releaseQuietly id).op? j = s.op? j := by
  unfold releaseQuietly ScriptedEndpoint.release
  cases s.endpoint.releaseError <;> rfl

@[simp] theorem op?_endpoint (e : ScriptedEndpoint) : ({ s with endpoint := e } : Session).op? j = s.op? j :=
  rfl

@[simp] theorem endpoint_modifyOp (f : Operation → Operation) : (s.modifyOp i f).endpoint = s.endpoint :=
  rfl

@[simp] theorem endpoint_logFrom (source : LogSource) (level : LogLevel) (message : String)
    (fields : List (String × JsonValue)) : (s.logFrom source level message fields).endpoint = s.endpoint :=
  rfl

@[simp] theorem endpoint_log (level : LogLevel) (message : String) (fields : List (String × JsonValue)) :
    (s.log level message fields).endpoint = s.endpoint := rfl

@[simp] theorem endpoint_setPhase (p : Phase) : (s.setPhase i p).endpoint = s.endpoint := rfl

@[simp] theorem endpoint_setTask (t : Task) : (s.setTask i t).endpoint = s.endpoint := rfl

@[simp] theorem endpoint_dropHandle : (s.dropHandle i).endpoint = s.endpoint := rfl

@[simp] theorem endpoint_emit (e : SubscriptionEvent) : (s.emit i e).endpoint = s.endpoint := rfl

@[simp] theorem endpoint_wake : (s.wake i).endpoint = s.endpoint := by
  unfold wake; split <;> rfl

@[simp] theorem released_receive : (s.receive n).1.endpoint.released = s.endpoint.released := by
  simp only [receive, ScriptedEndpoint.receive]
  split
  · split <;> rfl
  · rfl

@[simp] theorem released_dropReceiver : (s.dropReceiver n).endpoint.released = s.endpoint.released :=
  rfl

@[simp] theorem released_releaseQuietly (id : String) :
    (s.releaseQuietly id).endpoint.released = s.endpoint.released ++ [id] := by
  unfold releaseQuietly ScriptedEndpoint.release
  cases s.endpoint.releaseError <;> rfl

@[simp] theorem released_request (owner : Nat) (t : AuthType) (r : Request) :
    (s.endpoint.request owner t r).1.released = s.endpoint.released := rfl

@[simp] theorem released_send (event : EndpointEvent) :
    (s.endpoint.send n event).1.released = s.endpoint.released := by
  unfold ScriptedEndpoint.send; split
  · split <;> rfl
  · rfl

@[simp] theorem released_closeSender : (s.endpoint.closeSender n).released = s.endpoint.released :=
  rfl

end Frame

end Session
end ModelSync
