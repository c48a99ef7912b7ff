import ModelSync.Subscription.Event
import ModelSync.Request.Basic
/-!
A scripted endpoint: it answers each subscription request with the next step
of a script and keeps a record of what it was asked.

Each request opens a stream, a channel from the endpoint to the attempt that
made it. The step's events are sent at once; a `reply` step keeps the
stream's sending end, pushing it on a stack of open streams, while a `close`
step drops it, which closes the stream once its events are read. When the
script runs out, every further step is an empty `reply`.

An event sent on a stream arrives while both of its ends are held; a
subscriber's push goes to the newest open stream, and closing drops the
newest open stream's sending end.
Releasing a subscription records its id and fails when the script says so.
-/
namespace ModelSync

/-- One scripted answer: the events sent at once, and whether the stream stays open. -/
structure ScriptStep where
  events : List EndpointEvent
  keepOpen : Bool

/-- A channel from the endpoint to one attempt. -/
structure Stream where
  /-- The subscription whose attempt opened the stream. -/
  owner : Nat
  /-- Events sent and not yet read, oldest first. -/
  pending : List EndpointEvent
  /-- Whether the endpoint still holds the sending end. -/
  senderOpen : Bool
  /-- Whether the attempt still holds the receiving end. -/
  receiverOpen : Bool := true

/-- What reading a stream gives. -/
inductive Received where
  | event (event : EndpointEvent)
  /-- Nothing is pending and the sending end is gone. -/
  | closed
  /-- Nothing is pending yet. -/
  | empty

/-- One request the endpoint received. -/
structure EndpointCall where
  authType : AuthType
  request : Request

/-- An endpoint that answers from a script. -/
structure ScriptedEndpoint where
  script : List ScriptStep
  releaseError : Option EndpointError := none
  /-- The requests received, oldest first. -/
  calls : List EndpointCall := []
  /-- Every stream opened, by number. -/
  streams : List Stream := []
  /-- The streams whose sending ends are held, newest first. -/
  openStack : List Nat := []
  /-- The ids released, oldest first. -/
  released : List String := []

namespace ScriptedEndpoint

/-- The endpoint with one stream changed. -/
def modifyStream (e : ScriptedEndpoint) (n : Nat) (f : Stream → Stream) : ScriptedEndpoint :=
  { e with streams := e.streams.modify n f }

/-- Answers a request of a subscription; returns the number of the new stream. -/
def request (e : ScriptedEndpoint) (owner : Nat) (t : AuthType) (r : Request) :
    ScriptedEndpoint × Nat :=
  let (step, rest) := match e.script with
    | step :: rest => (step, rest)
    | [] => (⟨[], true⟩, [])
  let n := e.streams.length
  let stream : Stream := { owner, pending := step.events, senderOpen := step.keepOpen }
  let openStack := if step.keepOpen then n :: e.openStack else e.openStack
  let call : EndpointCall := ⟨t, r⟩
  let e' : ScriptedEndpoint :=
    { e with script := rest, calls := e.calls ++ [call], streams := e.streams ++ [stream],
             openStack := openStack }
  (e', n)

/-- Reads the next event of a stream. -/
def receive (e : ScriptedEndpoint) (n : Nat) : ScriptedEndpoint × Received :=
  match e.streams[n]? with
  | some s =>
    match s.pending with
    | ev :: rest => (e.modifyStream n ({ · with pending := rest }), .event ev)
    | [] => (e, if s.senderOpen then .empty else .closed)
  | none => (e, .closed)

/-- The endpoint after an attempt dropped its receiving end. -/
def dropReceiver (e : ScriptedEndpoint) (n : Nat) : ScriptedEndpoint :=
  e.modifyStream n ({ · with receiverOpen := false, pending := [] })

/-- Sends an event on stream `n`. It arrives while the endpoint holds the
sending end and the attempt the receiving end; returns whether it did. -/
def send (e : ScriptedEndpoint) (n : Nat) (ev : EndpointEvent) : ScriptedEndpoint × Bool :=
  match e.streams[n]? with
  | some s =>
    if s.senderOpen && s.receiverOpen then
      (e.modifyStream n (fun s => { s with pending := s.pending ++ [ev] }), true)
    else (e, false)
  | none => (e, false)

/-- Sends an event on the newest open stream. Returns the stream it reached,
if its receiving end is still held. -/
def push (e : ScriptedEndpoint) (ev : EndpointEvent) : ScriptedEndpoint × Option Nat :=
  match e.openStack with
  | n :: _ =>
    let (e, sent) := e.send n ev
    (e, if sent then some n else none)
  | [] => (e, none)

/-- Drops stream `n`'s sending end. -/
def closeSender (e : ScriptedEndpoint) (n : Nat) : ScriptedEndpoint :=
  { e.modifyStream n ({ · with senderOpen := false }) with openStack := e.openStack.erase n }

/-- Drops the newest open stream's sending end. Returns the stream, if there was one. -/
def closeNewest (e : ScriptedEndpoint) : ScriptedEndpoint × Option Nat :=
  match e.openStack with
  | n :: _ => (e.closeSender n, some n)
  | [] => (e, none)

/-- Releases a subscription: records its id, then fails if the script says so. -/
def release (e : ScriptedEndpoint) (id : String) : ScriptedEndpoint × Option EndpointError :=
  ({ e with released := e.released ++ [id] }, e.releaseError)

end ScriptedEndpoint
end ModelSync
