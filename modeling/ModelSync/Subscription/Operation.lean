import ModelSync.Subscription.State
import ModelSync.Subscription.Endpoint
/-!
A subscription operation: a request, the decorator applied to it per
attempt, the phase of its lifecycle, and the background loop that tries the
candidates.

The loop is a sequence of points at which it can stand. It starts by
announcing the request, then chooses candidates; each attempt opens a stream
and waits for the endpoint's acknowledgment. An acknowledged subscription
forwards items until it ends. A subscription canceled while an attempt was
pending keeps listening on that stream for a while, to release a late
acknowledgment. Reading an acknowledgment and accepting it are two steps, as
the operation's lock is taken only for the second. The loop waits only at
three points: for an acknowledgment, for an item, and for a late
acknowledgment.
-/
namespace ModelSync

/-- How long a canceled attempt listens for a late acknowledgment, in seconds. -/
def lateAckWindow : Nat := 30

/-- An attempt waiting for the endpoint's answer, with what the loop needs to
go on after a rejection. -/
structure PendingAttempt where
  /-- The candidates left. -/
  cursor : CandidateCursor
  /-- Attempts made so far, this one included. -/
  attempts : Nat
  /-- Whether a candidate remained when this one was taken. -/
  hasNext : Bool
  authType : AuthType
  stream : Nat

/-- A point of the candidate loop. -/
inductive LoopPoint where
  /-- Spawned; announces the request when first run. -/
  | announcing (cursor : CandidateCursor)
  /-- About to take the next candidate. -/
  | choosing (cursor : CandidateCursor) (attempts : Nat)
  /-- Waiting for an attempt to be acknowledged or rejected. -/
  | awaitingStart (attempt : PendingAttempt)
  /-- An acknowledgment read from the stream and not yet accepted; a
  cancellation may still come first. -/
  | activating (stream : Nat) (id : String)
  /-- Forwarding the items of an active subscription. -/
  | forwarding (stream : Nat)
  /-- Listening for a late acknowledgment until `deadline`; `expired` once the
  timer has gone off. -/
  | draining (stream : Nat) (deadline : Nat) (expired : Bool)

/-- The stream a loop point reads, if any. -/
def LoopPoint.stream? : LoopPoint → Option Nat
  | .awaitingStart a => some a.stream
  | .activating n _ | .forwarding n | .draining n _ _ => some n
  | _ => none

/-- The background task of an operation. -/
inductive Task where
  /-- No loop is running. -/
  | none
  /-- The loop stands at this point. -/
  | running (point : LoopPoint)
  /-- The loop was aborted at this point; it is dropped when next scheduled. -/
  | aborting (point : LoopPoint)

/-- A subscription operation. -/
structure Operation where
  request : Request
  decorator : Decorator
  phase : Phase := .idle
  /-- The candidates, until the operation is started or canceled. -/
  candidates : Option CandidateCursor
  task : Task := .none
  /-- Whether the operation holds the handle that aborts its loop: from the
  start until the operation ends or is canceled. -/
  loopHandle : Bool := false
  /-- Set once, when the first acknowledgment is accepted. -/
  acknowledged : Bool := false
  /-- Whether the operation was canceled; wakes a loop waiting for an acknowledgment. -/
  canceled : Bool := false
  /-- Events delivered and not yet taken by the subscriber, oldest first. -/
  events : List SubscriptionEvent := []

/-- A new idle operation. -/
def Operation.new (request : Request) (source : CandidateSource) (decorator : Decorator) :
    Operation :=
  { request, decorator, candidates := some (CandidateCursor.ofSource source) }

end ModelSync
