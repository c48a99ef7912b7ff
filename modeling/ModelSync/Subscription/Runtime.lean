import ModelSync.Subscription.Loop
/-!
Running a session on one thread, and the calls a subscriber makes.

Loops run only when the caller yields. Each yield runs the loops that are due,
oldest wake-up first, each until it waits or finishes or has read its
budget of items, and then lets the timers that are due go off; the loops
those timers woke, and then the loops that used up their budget, are due for
the next yield.
`settle` yields two hundred times; `advance` moves the clock and yields once.

A loop is woken by an event or a closed stream it waits on, by a
cancellation while it waits for an acknowledgment, by its timer, and by an
abort. `start` and `cancel` act at once and leave the loop to the next yield.
-/
namespace ModelSync
namespace Session

/-- Runs every loop that is due, in order. -/
def runQueued (s : Session) : Session :=
  s.runQueue.foldl runTask { s with runQueue := [] }

/-- Lets the late-acknowledgment timers that are due go off. -/
def fireTimers (s : Session) : Session :=
  (List.range s.operations.length).foldl (fun s i =>
    match s.op? i with
    | some { task := .running (.draining n deadline false), .. } =>
      if deadline ≤ s.clock then (s.setTask i (.running (.draining n deadline true))).wake i
      else s
    | _ => s) s

/-- Queues the loops that gave up their turn, after those the timers woke. -/
def resumeDeferred (s : Session) : Session :=
  s.deferred.foldl wake { s with deferred := [] }

/-- One yield of the caller. -/
def yieldOnce (s : Session) : Session := s.runQueued.fireTimers.resumeDeferred

/-- Yields `n` times. -/
def yieldTimes : Nat → Session → Session
  | 0, s => s
  | n + 1, s => yieldTimes n s.yieldOnce

/-- Lets the loops run until they all wait. -/
def settle (s : Session) : Session := yieldTimes 200 s

/-- Moves the clock on and yields once. -/
def advance (s : Session) (seconds : Nat) : Session :=
  { s with clock := s.clock + seconds }.yieldOnce

/-- Starts operation `i`: only once, from idle; otherwise a usage failure is delivered. -/
def start (s : Session) (i : Nat) : Session :=
  match s.op? i with
  | none => s
  | some op =>
    match op.phase, op.candidates with
    | .idle, some cursor =>
      let s := (s.modifyOp i fun op =>
        { op with phase := .starting, candidates := none, task := .running (.announcing cursor),
                  loopHandle := true })
      (s.wake i).log .debug "Subscription starting" [("field", .string op.request.field)]
    | .canceled _, _ =>
      (s.modifyOp i ({ · with candidates := none })).emit i
        (.error (.usage "subscription was canceled before it was started"))
    | _, _ =>
      (s.modifyOp i ({ · with candidates := none })).emit i
        (.error (.usage "subscription was already started"))

/-- Marks operation `i` canceled, waking a loop that waits for an acknowledgment. -/
def signalCancel (s : Session) (i : Nat) : Session :=
  let s := s.modifyOp i ({ · with canceled := true })
  match s.op? i with
  | some { task := .running (.awaitingStart _), .. } => s.wake i
  | _ => s

/-- Aborts operation `i`'s loop through its handle, if it holds one; the loop
is dropped when next scheduled. -/
def abort (s : Session) (i : Nat) : Session :=
  match s.op? i with
  | some { task := .running point, loopHandle := true, .. } =>
    ((s.setTask i (.aborting point)).dropHandle i).wake i
  | _ => s.dropHandle i

/-- Cancels operation `i`. An idle or starting operation is canceled; a
starting loop keeps listening for a late acknowledgment. An active one is
canceled, its loop aborted and its subscription released, a failed release
being delivered. A finished operation is left as it is. -/
def cancel (s : Session) (i : Nat) : Session :=
  match s.op? i with
  | none => s
  | some op =>
    let released := match op.phase with
      | .active id => some (some id)
      | .idle | .starting => some none
      | _ => none
    match released with
    | none => s.log .debug "Nothing to cancel" []
    | some released =>
      let s := match op.phase with
        | .active id => (s.abort i).setPhase i (.canceled (some id))
        | _ => ((s.setPhase i (.canceled none)).dropHandle i).modifyOp i
          ({ · with candidates := none })
      let s := (s.signalCancel i).log .debug "Cancelling subscription" []
      match released with
      | some id =>
        let (endpoint, failure) := s.endpoint.release id
        let s := { s with endpoint }
        match failure with
        | some e =>
          (s.log .warn "Failed to release subscription"
            [("subscription_id", .string id), ("error", .string e.message)]).emit i
            (.error (.endpoint e))
        | none => s
      | none => s

/-- Sends an event on the endpoint's newest open stream; whether it was delivered. -/
def push (s : Session) (event : EndpointEvent) : Session × Bool :=
  let (endpoint, reached) := s.endpoint.push event
  let s := { s with endpoint }
  match reached with
  | some n => (s.wakeReader n, true)
  | none => (s, false)

/-- Closes the endpoint's newest open stream; whether there was one. -/
def closeStream (s : Session) : Session × Bool :=
  let (endpoint, closed) := s.endpoint.closeNewest
  let s := { s with endpoint }
  match closed with
  | some n => (s.wakeReader n, true)
  | none => (s, false)

end Session
end ModelSync
