import ModelSync.Subscription.Session
/-!
The candidate loop of a subscription, one point at a time.

`Session.stepLoop` moves operation `i`'s loop from one point to the next,
waits at a point where it needs something that has not arrived, or finishes.
`Session.runLoop` repeats it until the loop waits or finishes, or has read
`readBudget` items in this turn; each run is a bounded number of steps, since
every step that neither waits nor finishes takes a candidate or reads an event.

While starting, the loop takes candidates in order. A failure of the source
fails the subscription, and so does running out before any attempt. A
candidate whose request cannot be decorated is skipped if another remains.
Each attempt opens a stream and waits: a cancellation seen there wins over
anything the stream holds; items before the acknowledgment are dropped; a
failure, a completion or a closed stream rejects the attempt, and a rejected
attempt moves on to the next candidate if one remains. An acknowledgment
is read, then accepted in a step of its own: it activates a subscription
still starting, whose items are then decoded and delivered until it
completes, fails, or the stream closes, and is released otherwise. A canceled attempt listens on, to
release a late acknowledgment, until its timer goes off.
-/
namespace ModelSync

/-- What one step of a loop leads to. -/
inductive LoopStep where
  /-- Go on at this point. -/
  | proceed (point : LoopPoint)
  /-- Wait at this point until woken. -/
  | park (point : LoopPoint)
  /-- The loop is over. -/
  | finish

namespace Session

/-- A rejected attempt: the next candidate if one remains, else failure. -/
def reject (s : Session) (i : Nat) (a : PendingAttempt) (e : EndpointError) :
    Session × LoopStep :=
  let s := s.dropReceiver a.stream
  if a.hasNext then
    (s.log .debug "Candidate rejected, trying next"
      [("auth_type", .string a.authType.wireName), ("error", .string e.message)],
     .proceed (.choosing a.cursor a.attempts))
  else (s.fail i (.endpoint e), .finish)

/-- Takes the next candidate of operation `i`. -/
def choose (s : Session) (i : Nat) (op : Operation) (cursor : CandidateCursor)
    (attempts : Nat) : Session × LoopStep :=
  if op.phase != .starting then (s, .finish)
  else
    match cursor.next with
    | none => (if attempts = 0 then s.fail i .authExhausted else s, .finish)
    | some (.error e, _) => (s.fail i (.candidateSource e), .finish)
    | some (.ok a, rest) =>
      let attempts := attempts + 1
      let hasNext := rest.hasNext
      let s := s.log .debug "Attempting subscription"
        [("auth_type", .string a.authType.wireName), ("attempt", .nat attempts)]
      let decorated :=
        if a.decorate then op.decorator.decorate op.request a.authType else .ok op.request
      match decorated with
      | .error e =>
        if hasNext then (s, .proceed (.choosing rest attempts))
        else (s.fail i (.decoration e), .finish)
      | .ok r =>
        let (endpoint, n) := s.endpoint.request i a.authType r
        ({ s with endpoint }, .proceed (.awaitingStart ⟨rest, attempts, hasNext, a.authType, n⟩))

/-- Handles one item of an active operation `i`. -/
def forwardEvent (s : Session) (i : Nat) (n : Nat) (id : String) :
    EndpointEvent → Session × LoopStep
  | .next payload =>
    match Response.ofJson payload with
    | .ok r => (s.emit i (.next r), .proceed (.forwarding n))
    | .error e =>
      let s := ((s.setPhase i (.failed (some id))).dropHandle i).log .error
        "Undecodable subscription item" [("error", .string e.message)]
      (((s.emit i (.error (.decode e.message))).releaseQuietly id).dropReceiver n, .finish)
  | .started _ =>
    (s.log .warn "Ignoring repeated start acknowledgment" [], .proceed (.forwarding n))
  | .error e => ((s.terminateFailed i id e).dropReceiver n, .finish)
  | .completed =>
    let s := (((s.setPhase i (.completed id)).dropHandle i).log .info "Subscription completed"
      []).emit i .completed
    (s.dropReceiver n, .finish)

/-- One step of operation `i`'s loop from a point. -/
def stepLoop (s : Session) (i : Nat) (point : LoopPoint) : Session × LoopStep :=
  match s.op? i with
  | none => (s, .finish)
  | some op =>
    match point with
    | .announcing cursor =>
      (s.log .debug "Requesting subscription" [("document", .string op.request.content)],
       .proceed (.choosing cursor 0))
    | .choosing cursor attempts => s.choose i op cursor attempts
    | .awaitingStart a =>
      if op.canceled then (s, .proceed (.draining a.stream (s.clock + lateAckWindow) false))
      else
        let (s, received) := s.receive a.stream
        match received with
        | .empty => (s, .park (.awaitingStart a))
        | .event (.started id) => (s, .proceed (.activating a.stream id))
        | .event (.next _) =>
          (s.log .warn "Dropping item delivered before the subscription started" [],
           .proceed (.awaitingStart a))
        | .event (.error e) => s.reject i a e
        | .event .completed | .closed => s.reject i a .closed
    | .activating n id =>
      let (s, accepted) := s.activate i id
      if accepted then (s, .proceed (.forwarding n)) else (s.dropReceiver n, .finish)
    | .forwarding n =>
      let (s, received) := s.receive n
      match received with
      | .empty => (s, .park (.forwarding n))
      | .closed =>
        let s := match op.phase.activeId with
          | some id => s.terminateFailed i id .closed
          | none => s
        (s.dropReceiver n, .finish)
      | .event ev =>
        match op.phase.activeId with
        | some id => s.forwardEvent i n id ev
        | none => (s.dropReceiver n, .finish)
    | .draining n deadline expired =>
      let (s, received) := s.receive n
      match received with
      | .event (.started id) =>
        let s := s.log .debug "Releasing subscription acknowledged after cancel"
          [("subscription_id", .string id)]
        ((s.releaseQuietly id).dropReceiver n, .finish)
      | .event (.next _) => (s, .proceed (.draining n deadline expired))
      | .event _ | .closed => (s.dropReceiver n, .finish)
      | .empty =>
        if expired then (s.dropReceiver n, .finish) else (s, .park (.draining n deadline expired))

/-- How many items a loop may read from its stream in one turn; at the next
read it gives up its turn. -/
def readBudget : Nat := 128

/-- Whether operation `i`'s loop reads its stream at a point: while waiting
for an acknowledgment it has not been canceled, and always while forwarding
or draining. -/
def readsAt (s : Session) (i : Nat) : LoopPoint → Bool
  | .awaitingStart _ => match s.op? i with
    | some op => !op.canceled
    | none => false
  | .forwarding _ | .draining _ _ _ => true
  | _ => false

/-- Runs operation `i`'s loop from a point until it waits or finishes, for at
most `fuel` steps, with `budget` reads left in this turn. Every read that
yields an item or finds the stream closed uses one; a loop that would read
with none left stops and waits for the caller's next yield. A drain whose
timer has gone off ends there instead: giving up the turn is when its timer
is looked at. -/
def runLoop : Nat → Nat → Session → Nat → LoopPoint → Session
  | 0, _, s, i, point => s.setTask i (.running point)
  | fuel + 1, budget, s, i, point =>
    if s.readsAt i point ∧ budget = 0 then
      match point with
      | .draining n _ true => (s.dropReceiver n).setTask i .none
      | _ => { s.setTask i (.running point) with deferred := s.deferred ++ [i] }
    else
      let used := if s.readsAt i point then 1 else 0
      match s.stepLoop i point with
      | (s, .proceed next) => runLoop fuel (budget - used) s i next
      | (s, .park next) => s.setTask i (.running next)
      | (s, .finish) => s.setTask i .none

/-- The number of events the endpoint holds or will send. -/
def eventCount (s : Session) : Nat :=
  s.endpoint.streams.foldl (fun n stream => n + stream.pending.length) 0 +
    s.endpoint.script.foldl (fun n step => n + step.events.length) 0

/-- A bound on the steps a loop can take from a point before it waits or
finishes: each step that does neither takes a candidate or reads an event. -/
def loopBound (s : Session) (point : LoopPoint) : Nat :=
  let candidates := match point with
    | .announcing c | .choosing c _ => c.size
    | .awaitingStart a => a.cursor.size
    | _ => 0
  4 * (candidates + s.eventCount + 1) + 4

/-- Runs operation `i`'s scheduled loop: a running loop goes on until it
waits or finishes; an aborted one lets go of its stream and is dropped. -/
def runTask (s : Session) (i : Nat) : Session :=
  match s.op? i with
  | some op =>
    match op.task with
    | .running point => s.runLoop (s.loopBound point) readBudget i point
    | .aborting point =>
      let s := match point.stream? with
        | some n => s.dropReceiver n
        | none => s
      s.setTask i .none
    | .none => s
  | none => s

end Session
end ModelSync
