import ModelSync.Proofs.Subscription.Delivery
/-!
The candidate loop of a started subscription comes to an end, having made
exactly the requests its candidates call for.

A source yields its attempts in order (`CandidateSource.attempts`): a
configured type once, always decorated; a rule-derived candidate as its type,
decorated when it comes from an owner rule; a failure of the source as it is.
An attempt is made with the operation's own request, decorated for it when it
asks for that (`attemptRequest`), so no attempt carries another's decoration.
The loop asks the endpoint, in order, for the attempts before the source's
first failure whose request can be built (`requested`), and reads one answer
per request: the first signal on the attempt's stream other than an item
(`Session.answerTaken`).

Main statement (`Session.candidate_loop_settles`): along any schedule of a
session of one just-started operation, the loop settles (`Concludes`). Either
its last request is the first one acknowledged, every earlier one having been
rejected, and the operation is active under that id with one `started` event
delivered; or every request it could make was made and rejected, and the
operation failed with one error event, whose cause `GivesUp` pins down: the
source's first failure, no attempt at all, the last attempt's decoration, or
the endpoint's rejection of the last attempt.

What is assumed, as hypotheses on the schedule (`Session.Attentive`): the
operation is never canceled; its loop takes a step again and again; and every
stream its loop waits on for an acknowledgment comes to hold an answer, a
signal other than an item or the end of the stream. Nothing is assumed of
the decorator or of what the endpoint sends.

The proof runs an invariant (`Session.Stands`) along the schedule, one move at
a time, and a rank that every step of the loop lowers, save reading an item
before the acknowledgment; those are bounded by the answer's place on the
stream (`leadOf`), which no other move raises.
-/
namespace ModelSync

/-! ## Attempts, requests and answers -/

/-- The attempts a source yields, in order: a configured type once, always
decorated; each rule-derived candidate as its type, decorated when it comes
from an owner rule; a failure of the source as it is. -/
def CandidateSource.attempts : CandidateSource → List (Except CandidateError Attempt)
  | .fixed t => [.ok ⟨t, true⟩]
  | .ruleDerived items => items.map (Except.map fun c => ⟨c.authType, c.isOwner⟩)

namespace CandidateCursor

/-- The attempts a cursor has left to yield, in order. -/
def attempts : CandidateCursor → List (Except CandidateError Attempt)
  | fixed none => []
  | fixed (some t) => [.ok ⟨t, true⟩]
  | ruleDerived items => items.map (Except.map fun c => ⟨c.authType, c.isOwner⟩)

theorem attempts_ofSource (source : CandidateSource) : (ofSource source).attempts = source.attempts := by
  cases source <;> rfl

theorem next_eq_none_iff {cursor : CandidateCursor} : cursor.next = none ↔ cursor.attempts = [] := by
  cases cursor with
  | fixed t => cases t <;> simp [next, attempts]
  | ruleDerived items => cases items <;> simp [next, attempts]

/-- Taking the next item takes the first attempt off the cursor. -/
theorem attempts_of_next {cursor rest : CandidateCursor} {x : Except CandidateError Attempt}
    (h : cursor.next = some (x, rest)) : cursor.attempts = x :: rest.attempts := by
  cases cursor with
  | fixed t =>
    cases t with
    | none => cases h
    | some t =>
      simp only [next, Option.some.injEq, Prod.mk.injEq] at h
      obtain ⟨rfl, rfl⟩ := h
      rfl
  | ruleDerived items =>
    cases items with
    | nil => cases h
    | cons item rest' =>
      simp only [next, Option.some.injEq, Prod.mk.injEq] at h
      obtain ⟨rfl, rfl⟩ := h
      rfl

theorem hasNext_eq_false_iff {cursor : CandidateCursor} : cursor.hasNext = false ↔ cursor.attempts = [] := by
  cases cursor with
  | fixed t => cases t <;> simp [hasNext, attempts]
  | ruleDerived items => cases items <;> simp [hasNext, attempts]

end CandidateCursor

/-- The request an attempt is made with: the operation's own request,
decorated for the attempt's type when the attempt asks for it. -/
def attemptRequest (request : Request) (decorator : Decorator) (a : Attempt) :
    Except DecorationError Request :=
  if a.decorate then decorator.decorate request a.authType else .ok request

/-- How the endpoint answered an attempt: the first signal on its stream
other than an item. -/
inductive Answer where
  /-- Acknowledged under this id. -/
  | ack (id : String)
  /-- Rejected: a failure, or the stream completed or closed. -/
  | reject (e : EndpointError)

/-- The answer a read gives an attempt waiting for its acknowledgment: an
acknowledgment, a failure, or the end of the stream; an item or nothing yet
is none. -/
def Received.answer : Received → Option Answer
  | .event (.started id) => some (.ack id)
  | .event (.error e) => some (.reject e)
  | .event .completed | .closed => some (.reject .closed)
  | .event (.next _) | .empty => none

section Spec

variable (build : Attempt → Except DecorationError Request)

/-- The requests a loop makes over attempts none of which is acknowledged:
one for each attempt before the source's first failure whose request can be
built, in order, with its type. -/
def requested : List (Except CandidateError Attempt) → List (AuthType × Request)
  | [] => []
  | .error _ :: _ => []
  | .ok a :: rest =>
    match build a with
    | .ok r => (a.authType, r) :: requested rest
    | .error _ => requested rest

/-- The failure a loop that got no acknowledgment ends with, and when it may:
the source's failure when it is the first among the attempts; running out
when there was no attempt at all; a failed decoration, of the last attempt;
an endpoint failure, the rejection of the last attempt. -/
def GivesUp (items : List (Except CandidateError Attempt)) (rejections : List EndpointError) :
    SubscriptionError → Prop
  | .candidateSource e => ∃ (done : List Attempt) (rest : List (Except CandidateError Attempt)),
      items = done.map .ok ++ .error e :: rest
  | .authExhausted => items = []
  | .decoration d => ∃ (done : List Attempt) (a : Attempt),
      items = done.map .ok ++ [.ok a] ∧ build a = .error d
  | .endpoint e => ∃ (done : List Attempt) (a : Attempt) (r : Request),
      items = done.map .ok ++ [.ok a] ∧ build a = .ok r ∧ rejections.getLast? = some e
  | _ => False

/-- How a loop over `items` has ended, given the requests it made and the
answers it read. Either its last request was the first acknowledged, as `id`,
each request having had one answer, and the operation forwards the
subscription, active under `id`, having told its subscriber only that; or no
request was acknowledged, every request it could make was made, and the
operation has failed with no loop left, having told its subscriber only why. -/
def Concludes (items : List (Except CandidateError Attempt)) (calls : List (AuthType × Request))
    (answers : List Answer) (op : Operation) : Prop :=
  (∃ (n : Nat) (id : String) (rejections : List EndpointError), op.task = .running (.forwarding n) ∧ op.phase = .active id ∧
    visible op.events = [.started id] ∧ answers = rejections.map .reject ++ [.ack id] ∧
    calls.length = answers.length ∧ calls = (requested build items).take answers.length) ∨
  (∃ (e : SubscriptionError) (rejections : List EndpointError), op.task = .none ∧ op.phase = .failed none ∧ visible op.events = [.error e] ∧
    answers = rejections.map .reject ∧ calls = requested build items ∧ GivesUp build items rejections e)

@[simp] theorem requested_nil : requested build [] = [] := rfl

theorem requested_map_ok_append (done : List Attempt) (rest : List (Except CandidateError Attempt)) :
    requested build (done.map .ok ++ rest) = requested build (done.map .ok) ++ requested build rest := by
  induction done with
  | nil => rfl
  | cons a done ih =>
    simp only [List.map_cons, List.cons_append, requested]
    cases build a <;> simp [ih]

theorem requested_error (e : CandidateError) (rest : List (Except CandidateError Attempt)) :
    requested build (.error e :: rest) = [] := rfl

theorem requested_ok_of_ok {a : Attempt} {r : Request} (built : build a = .ok r)
    (rest : List (Except CandidateError Attempt)) :
    requested build (.ok a :: rest) = (a.authType, r) :: requested build rest := by
  simp [requested, built]

theorem requested_ok_of_error {a : Attempt} {d : DecorationError} (failed : build a = .error d)
    (rest : List (Except CandidateError Attempt)) :
    requested build (.ok a :: rest) = requested build rest := by
  simp [requested, failed]

end Spec

/-! ## What the loop reads and asks for -/

/-- The items that stand before the answer on a stream, if it holds one: a
signal other than an item, or, once nothing else is left, the end of a
stream whose sender is gone. -/
def leadOf (senderOpen : Bool) : List EndpointEvent → Option Nat
  | [] => if senderOpen then none else some 0
  | .next _ :: rest => (leadOf senderOpen rest).map (· + 1)
  | _ :: _ => some 0

/-- On a stream still open, an answer stays where it is as events are sent after it. -/
theorem leadOf_append {pending : List EndpointEvent} {k : Nat} (h : leadOf true pending = some k)
    (ev : EndpointEvent) : leadOf true (pending ++ [ev]) = some k := by
  induction pending generalizing k with
  | nil => simp [leadOf] at h
  | cons head rest ih =>
    cases head with
    | next payload =>
      simp only [leadOf, Option.map_eq_some_iff] at h
      obtain ⟨j, found, rfl⟩ := h
      simp [leadOf, ih found]
    | started | error | completed => simpa [leadOf] using h

theorem leadOf_closed {senderOpen : Bool} {pending : List EndpointEvent} {k : Nat}
    (h : leadOf senderOpen pending = some k) : leadOf false pending = some k := by
  induction pending generalizing k with
  | nil => cases senderOpen <;> simp_all [leadOf]
  | cons head rest ih =>
    cases head with
    | next payload =>
      simp only [leadOf, Option.map_eq_some_iff] at h
      obtain ⟨j, found, rfl⟩ := h
      simp [leadOf, ih found]
    | started | error | completed => simpa [leadOf] using h

namespace ScriptedEndpoint

variable (e : ScriptedEndpoint) (n : Nat)

@[simp] theorem calls_request (owner : Nat) (t : AuthType) (r : Request) :
    (e.request owner t r).1.calls = e.calls ++ [⟨t, r⟩] := by
  unfold request; split; rfl

@[simp] theorem calls_receive : (e.receive n).1.calls = e.calls := by
  unfold receive; split
  · split <;> rfl
  · rfl

@[simp] theorem calls_send (ev : EndpointEvent) : (e.send n ev).1.calls = e.calls := by
  unfold send; split
  · split <;> rfl
  · rfl

end ScriptedEndpoint

namespace Session

variable (s : Session) (i n : Nat)

/-- The requests made to the endpoint after its first `base`, each with the
type it was made for. -/
def requestsSince (base : Nat) : List (AuthType × Request) :=
  (s.endpoint.calls.drop base).map fun c => (c.authType, c.request)

/-- The answer operation `i`'s loop reads in its next step: while it waits
for an acknowledgment and has not been canceled, what reading its stream
tells it. -/
def answerTaken : Option Answer :=
  match s.op? i with
  | some op =>
    match op.task with
    | .running (.awaitingStart a) => if op.canceled then none else (s.receive a.stream).2.answer
    | _ => none
  | none => none

/-- The answer operation `i`'s loop reads in a move. -/
def answerIn : Move → Option Answer
  | .loop j => if j = i then s.answerTaken i else none
  | _ => none

/-- The items before the answer on stream `n`; a stream that does not exist
reads as closed. -/
def leadOn : Option Nat :=
  match s.endpoint.streams[n]? with
  | some st => leadOf st.senderOpen st.pending
  | none => some 0

/-- Stream `n` holds an answer for the attempt reading it: a signal other
than an item, or the end of the stream, its sender gone. -/
def Answers : Prop :=
  ∀ st, s.endpoint.streams[n]? = some st →
    (∃ ev ∈ st.pending, ∀ payload, ev ≠ .next payload) ∨ st.senderOpen = false

theorem leadOn_isSome_of_answers {s : Session} {n : Nat} (h : s.Answers n) : (s.leadOn n).isSome := by
  unfold leadOn
  cases found : s.endpoint.streams[n]? with
  | none => rfl
  | some st =>
    -- the answer is either a signal in the pending list or the closed end after it
    have pending : ∀ pending : List EndpointEvent,
        ((∃ ev ∈ pending, ∀ payload, ev ≠ .next payload) ∨ st.senderOpen = false) →
        (leadOf st.senderOpen pending).isSome := by
      intro pending
      induction pending with
      | nil => rintro (⟨ev, absent, -⟩ | closed) <;> simp_all [leadOf]
      | cons head rest ih =>
        intro holds
        cases head with
        | next payload =>
          simp only [leadOf, Option.isSome_map]
          refine ih ?_
          rcases holds with ⟨ev, mem, notItem⟩ | closed
          · rcases List.mem_cons.mp mem with rfl | mem
            · exact absurd rfl (notItem payload)
            · exact .inl ⟨ev, mem, notItem⟩
          · exact .inr closed
        | started | error | completed => rfl
    exact pending st.pending (h st found)

end Session

/-! ## Where the loop stands -/

section Course

variable (build : Attempt → Except DecorationError Request) (items : List (Except CandidateError Attempt))

/-- Attempts taken so far, `done`, none a failure of the source: the requests
made are those `requested` gives for them, and each has been rejected. -/
def Tried (done : List Attempt) (calls : List (AuthType × Request)) (answers : List Answer) : Prop :=
  calls = requested build (done.map .ok) ∧
    ∃ rejections : List EndpointError, answers = rejections.map .reject ∧ rejections.length = calls.length

/-- The loop's last request, for the attempt `x` after those `done`, was the
first to be acknowledged, as `id`. -/
def Acked (calls : List (AuthType × Request)) (answers : List Answer) (id : String) : Prop :=
  ∃ (done : List Attempt) (x : Attempt) (r : Request) (rest : List (Except CandidateError Attempt))
    (earlier : List (AuthType × Request)) (before : List Answer),
    items = done.map .ok ++ .ok x :: rest ∧ build x = .ok r ∧ Tried build done earlier before ∧
    calls = earlier ++ [(x.authType, r)] ∧ answers = before ++ [.ack id]

/-- An operation still starting, never acknowledged, that has told its
subscriber nothing. -/
def Opening (op : Operation) : Prop :=
  op.phase = .starting ∧ op.acknowledged = false ∧ visible op.events = []

/-- Where the loop stands against its attempts at each point: what it has
taken, requested and read. -/
def Stage (calls : List (AuthType × Request)) (answers : List Answer) (op : Operation) :
    LoopPoint → Prop
  | .announcing cursor => Opening op ∧ cursor.attempts = items ∧ calls = [] ∧ answers = []
  | .choosing cursor k => Opening op ∧ ∃ done, Tried build done calls answers ∧
      items = done.map .ok ++ cursor.attempts ∧ k = done.length ∧ (k = 0 ∨ cursor.hasNext = true)
  | .awaitingStart a => Opening op ∧ ∃ done x r earlier, Tried build done earlier answers ∧
      items = done.map .ok ++ .ok x :: a.cursor.attempts ∧ build x = .ok r ∧
      calls = earlier ++ [(x.authType, r)] ∧ a.attempts = done.length + 1 ∧
      a.hasNext = a.cursor.hasNext
  | .activating _ id => Opening op ∧ Acked build items calls answers id
  | .forwarding _ => ∃ id, op.phase = .active id ∧ visible op.events = [.started id] ∧
      Acked build items calls answers id
  | .draining .. => False

/-- Where the loop of an operation stands, or how it gave up once it has no
loop left. -/
def Course (calls : List (AuthType × Request)) (answers : List Answer) (op : Operation) : Prop :=
  match op.task with
  | .running point => Stage build items calls answers op point
  | .none => op.phase = .failed none ∧ ∃ (e : SubscriptionError) (rejections : List EndpointError),
      visible op.events = [.error e] ∧ answers = rejections.map .reject ∧
      calls = requested build items ∧ GivesUp build items rejections e
  | .aborting _ => False

/-- An acknowledged loop made the requests `requested` gives up to the
acknowledged one: one per answer, every answer a rejection but the last. -/
theorem Acked.concludes {calls : List (AuthType × Request)} {answers : List Answer} {id : String}
    (acked : Acked build items calls answers id) :
    ∃ rejections : List EndpointError, answers = rejections.map .reject ++ [.ack id] ∧
      calls.length = answers.length ∧ calls = (requested build items).take answers.length := by
  obtain ⟨done, x, r, rest, earlier, before, attempts, building, ⟨made, rejections, answered, counted⟩,
    rfl, rfl⟩ := acked
  have length : (before ++ [Answer.ack id]).length = earlier.length + 1 := by simp [answered, counted]
  refine ⟨rejections, by rw [answered], by rw [length]; simp, ?_⟩
  rw [length, attempts, requested_map_ok_append, requested_ok_of_ok build building, ← made,
    List.take_length_add_append]
  simp

end Course

/-- The candidate loop is over: it gave up, or it forwards an acknowledged
subscription. -/
def Task.Settled : Task → Prop
  | .none | .running (.forwarding _) => True
  | _ => False

/-- A bound on the steps the loop has left before it settles, reading items
before an acknowledgment apart: two per attempt left, a choice and a wait. -/
def Task.rank : Task → Nat
  | .running (.announcing cursor) => 2 * cursor.attempts.length + 2
  | .running (.choosing cursor _) => 2 * cursor.attempts.length + 1
  | .running (.awaitingStart a) => 2 * a.cursor.attempts.length + 2
  | _ => 0

namespace Session

/-- The invariant along a schedule of a session of one operation, numbered 0,
whose loop works through `items`, building requests with `build`: the endpoint
had taken `base` requests before, and the loop, never canceled, stands where
the requests made since and the answers it read say. -/
def Stands (build : Attempt → Except DecorationError Request)
    (items : List (Except CandidateError Attempt)) (base : Nat) (s : Session)
    (answers : List Answer) : Prop :=
  base ≤ s.endpoint.calls.length ∧ (∀ j, j ≠ 0 → s.op? j = none) ∧
    ∃ op, s.op? 0 = some op ∧ op.canceled = false ∧ attemptRequest op.request op.decorator = build ∧
      Course build items (s.requestsSince base) answers op


theorem requestsSince_of_calls {s s' : Session} (base : Nat) (same : s'.endpoint.calls = s.endpoint.calls) :
    s'.requestsSince base = s.requestsSince base := by
  simp [requestsSince, same]

section Calls

variable (s : Session) (i n base : Nat)

@[simp] theorem requestsSince_log (level : LogLevel) (message : String)
    (fields : List (String × JsonValue)) : (s.log level message fields).requestsSince base = s.requestsSince base :=
  rfl

@[simp] theorem requestsSince_modifyOp (f : Operation → Operation) :
    (s.modifyOp i f).requestsSince base = s.requestsSince base := rfl

@[simp] theorem requestsSince_setTask (t : Task) : (s.setTask i t).requestsSince base = s.requestsSince base :=
  rfl

@[simp] theorem requestsSince_setPhase (p : Phase) :
    (s.setPhase i p).requestsSince base = s.requestsSince base := rfl

@[simp] theorem requestsSince_emit (e : SubscriptionEvent) :
    (s.emit i e).requestsSince base = s.requestsSince base := rfl

@[simp] theorem requestsSince_fail (e : SubscriptionError) :
    (s.fail i e).requestsSince base = s.requestsSince base :=
  requestsSince_of_calls base (by simp)

@[simp] theorem requestsSince_start : (s.start i).requestsSince base = s.requestsSince base :=
  requestsSince_of_calls base (by simp)

@[simp] theorem requestsSince_dropReceiver : (s.dropReceiver n).requestsSince base = s.requestsSince base :=
  rfl

@[simp] theorem calls_dropReceiver : (s.dropReceiver n).endpoint.calls = s.endpoint.calls := rfl

@[simp] theorem calls_receive : (s.receive n).1.endpoint.calls = s.endpoint.calls := by
  simp [receive]

/-- A request made to the endpoint is the last of those made since `base`. -/
theorem requestsSince_request (t : AuthType) (r : Request) (below : base ≤ s.endpoint.calls.length) :
    ({ s with endpoint := (s.endpoint.request i t r).1 } : Session).requestsSince base =
      s.requestsSince base ++ [(t, r)] := by
  simp [requestsSince, List.drop_append_of_le_length below]

end Calls

section Steps

variable {build : Attempt → Except DecorationError Request} {items : List (Except CandidateError Attempt)}
  {base : Nat} {s : Session} {op : Operation} {answers : List Answer}

/-- The invariant where the loop runs: the facts of the point it stands at. -/
theorem Stands.running {point : LoopPoint} (stands : s.Stands build items base answers)
    (hop : s.op? 0 = some op) (task : op.task = .running point) :
    base ≤ s.endpoint.calls.length ∧ (∀ j, j ≠ 0 → s.op? j = none) ∧ op.canceled = false ∧
      attemptRequest op.request op.decorator = build ∧
      Stage build items (s.requestsSince base) answers op point := by
  obtain ⟨below, others, op', hop', live, built, course⟩ := stands
  cases hop.symm.trans hop'
  simp only [Course, task] at course
  exact ⟨below, others, live, built, course⟩

/-- Announcing the request leads to the first choice, with nothing taken yet. -/
theorem loop_announcing {cursor : CandidateCursor} (stands : s.Stands build items base answers)
    (hop : s.op? 0 = some op) (task : op.task = .running (.announcing cursor)) :
    (s.move (.loop 0)).Stands build items base answers ∧
      ((s.move (.loop 0)).taskOf 0).rank < (s.taskOf 0).rank := by
  obtain ⟨below, others, live, built, opening, attempts, noCalls, rfl⟩ := stands.running hop task
  have moved : s.move (.loop 0) = (s.log .debug "Requesting subscription"
      [("document", .string op.request.content)]).setTask 0 (.running (.choosing cursor 0)) := by
    simp [move, loopMove_running hop task, stepLoop, hop, LoopStep.task]
  rw [moved]
  refine ⟨⟨by simpa using below, fun j other => by simp [setTask, other, others j other], ?_⟩, ?_⟩
  · refine ⟨{ op with task := .running (.choosing cursor 0) }, by simp [setTask, hop], live, built, ?_⟩
    simp only [Course, Stage]
    exact ⟨opening, [], ⟨by simp [noCalls], [], rfl, by simp [noCalls]⟩, by simp [attempts],
      rfl, .inl trivial⟩
  · simp [taskOf, setTask, hop, task, Task.rank]

/-- A loop that gives up with a failure `GivesUp` accounts for, every request
it could make having been made and rejected, leaves the operation failed and
with no loop, having told its subscriber why. -/
theorem stands_fail (below : base ≤ s.endpoint.calls.length) (others : ∀ j, j ≠ 0 → s.op? j = none)
    (hop : s.op? 0 = some op) (live : op.canceled = false)
    (built : attemptRequest op.request op.decorator = build) (opening : Opening op)
    {e : SubscriptionError} {rejections : List EndpointError} (answered : answers = rejections.map .reject)
    (made : s.requestsSince base = requested build items) (why : GivesUp build items rejections e) :
    ((s.fail 0 e).setTask 0 .none).Stands build items base answers ∧
      (((s.fail 0 e).setTask 0 .none).taskOf 0).Settled := by
  obtain ⟨phase, -, quiet⟩ := opening
  have failed : ((s.fail 0 e).setTask 0 .none).op? 0 = some
      { op with phase := .failed none, loopHandle := false, events := op.events ++ [.error e], task := .none } := by
    simp [setTask, phaseOf, hop, phase, setPhase, dropHandle, emit]
  -- a failure that `GivesUp` accounts for is never a usage failure, so the subscriber sees it
  have shown : (SubscriptionEvent.error e).isUsage = false := by
    cases e <;> simp_all [GivesUp, SubscriptionEvent.isUsage]
  refine ⟨⟨by simpa using below, fun j other => ?_, _, failed, live, built, ?_⟩,
    by simp [taskOf, failed, Task.Settled]⟩
  · simp [setTask, setPhase, dropHandle, emit, other, others j other]
  · simp only [Course]
    exact ⟨by simp, e, rejections, by simp [quiet, shown], answered, by simpa using made, why⟩

/-- A choice takes the next attempt. It fails the operation when the source
fails, or when no attempt was ever available; it skips an attempt whose
request cannot be built if another remains, and fails on it otherwise; it
makes the request of any other attempt and waits for the answer. Each way,
the loop settles or its rank drops. -/
theorem loop_choosing {cursor : CandidateCursor} {k : Nat} (stands : s.Stands build items base answers)
    (hop : s.op? 0 = some op) (task : op.task = .running (.choosing cursor k)) :
    (s.move (.loop 0)).Stands build items base answers ∧
      (((s.move (.loop 0)).taskOf 0).Settled ∨ ((s.move (.loop 0)).taskOf 0).rank < (s.taskOf 0).rank) := by
  obtain ⟨below, others, live, built, opening, done, ⟨made, rejections, answered, counted⟩, attempts, rfl,
    left⟩ := stands.running hop task
  have stepped : s.move (.loop 0) = (s.choose 0 op cursor done.length).1.setTask 0
      (s.choose 0 op cursor done.length).2.task := by
    simp [move, loopMove_running hop task, stepLoop, hop]
  have rank : (s.taskOf 0).rank = 2 * cursor.attempts.length + 1 := by simp [taskOf, hop, task, Task.rank]
  rw [stepped, rank]
  unfold choose
  simp only [opening.1, bne_self_eq_false, Bool.false_eq_true, if_false]
  rcases next : cursor.next with _ | ⟨_ | a, rest⟩
  · -- no attempt left: only the first choice can find none, and then there was none at all
    have zero : done.length = 0 :=
      left.resolve_right fun more => by simpa [next] using CandidateCursor.next_isSome more
    have none : cursor.attempts = [] := CandidateCursor.next_eq_none_iff.mp next
    obtain rfl := List.length_eq_zero_iff.mp zero
    have noRejections : rejections = [] := by simpa [made, requested] using counted
    subst noRejections
    simp only [zero, if_true, LoopStep.task]
    have failed := stands_fail below others hop live built opening answered
      (by simp [made, attempts, none]) (show GivesUp build items [] .authExhausted by
        simp [GivesUp, attempts, none])
    exact failed.imp_right .inl
  · -- the source fails: the loop gives up with its failure
    rename_i e
    have shape := CandidateCursor.attempts_of_next next
    simp only [LoopStep.task]
    have failed := stands_fail below others hop live built opening answered
      (by rw [made, attempts, shape, requested_map_ok_append, requested_error, List.append_nil])
      (show GivesUp build items rejections (.candidateSource e) from ⟨done, rest.attempts, by rw [attempts, shape]⟩)
    exact failed.imp_right .inl
  · have shape := CandidateCursor.attempts_of_next next
    have decorated : (if a.decorate = true then op.decorator.decorate op.request a.authType
        else Except.ok op.request) = build a := by rw [← built]; rfl
    dsimp only
    rw [decorated]
    cases building : build a with
    | error d =>
      by_cases more : rest.hasNext = true
      · -- skipped: nothing is requested for it, and the next choice comes after it
        simp only [more, if_true, LoopStep.task]
        refine ⟨⟨by simpa using below, fun j other => by simp [setTask, other, others j other],
          { op with task := .running (.choosing rest (done.length + 1)) }, by simp [setTask, hop], live,
          built, ?_⟩, .inr ?_⟩
        · simp only [Course, Stage]
          refine ⟨opening, done ++ [a], ⟨?_, rejections, answered, ?_⟩, ?_, by simp, .inr more⟩
          · simp [made, requested_map_ok_append, requested_ok_of_error build building]
          · simp [counted]
          · simp [attempts, shape]
        · simp [taskOf, setTask, hop, Task.rank, shape]
      · -- the last attempt cannot be built: the loop gives up with its decoration failure
        have last : rest.attempts = [] := CandidateCursor.hasNext_eq_false_iff.mp (by simpa using more)
        simp only [more, Bool.false_eq_true, if_false, LoopStep.task]
        have failed := stands_fail (s := s.log .debug "Attempting subscription"
            [("auth_type", .string a.authType.wireName), ("attempt", .nat (done.length + 1))])
          (by simpa using below) (fun j other => by simpa using others j other) (by simpa using hop) live
          built opening answered
          (by simp [made, attempts, shape, last, requested_map_ok_append,
            requested_ok_of_error build building])
          (show GivesUp build items rejections (.decoration d) from
            ⟨done, a, by simp [attempts, shape, last], building⟩)
        exact failed.imp_right .inl
    | ok r =>
      -- the request goes out, and the loop waits for its answer
      simp only [LoopStep.task]
      refine ⟨⟨by simp; omega, fun j other => by simp [setTask, other, others j other],
        { op with task := .running (.awaitingStart ⟨rest, done.length + 1, rest.hasNext, a.authType,
          (s.endpoint.request 0 a.authType r).2⟩) }, by simp [setTask, hop], live, built, ?_⟩, .inr ?_⟩
      · simp only [Course, Stage]
        refine ⟨opening, done, a, r, s.requestsSince base, ⟨made, rejections, answered, counted⟩,
          by simp [attempts, shape], building, ?_, by simp, by simp⟩
        simpa using requestsSince_request (s.log .debug "Attempting subscription"
          [("auth_type", .string a.authType.wireName), ("attempt", .nat (done.length + 1))]) 0 base
          a.authType r (by simpa using below)
      · simp [taskOf, setTask, hop, Task.rank, shape]
        omega

/-- Reading an item off a stream moves the answer one place closer. -/
theorem leadOn_of_receive_next {s s₁ : Session} {n : Nat} {payload : JsonValue}
    (received : s.receive n = (s₁, .event (.next payload))) {k : Nat} (lead : s.leadOn n = some k) :
    ∃ j, k = j + 1 ∧ s₁.leadOn n = some j := by
  unfold receive ScriptedEndpoint.receive at received
  unfold leadOn at lead
  cases found : s.endpoint.streams[n]? with
  | none => simp [found] at received
  | some st =>
    rw [found] at lead
    cases pend : st.pending with
    | nil => cases opened : st.senderOpen <;> simp [found, pend, opened] at received
    | cons ev rest =>
      simp only [found, pend, Prod.mk.injEq, Received.event.injEq] at received
      obtain ⟨rfl, rfl⟩ := received
      simp only [pend, leadOf, Option.map_eq_some_iff] at lead
      obtain ⟨j, rest_lead, rfl⟩ := lead
      refine ⟨j, rfl, ?_⟩
      simp [leadOn, ScriptedEndpoint.modifyStream, found, rest_lead]

/-- A stream with nothing to read yet holds no answer, and reading it changes nothing. -/
theorem leadOn_of_receive_empty {s s₁ : Session} {n : Nat} (received : s.receive n = (s₁, .empty)) :
    s.leadOn n = none ∧ s₁ = s := by
  unfold receive ScriptedEndpoint.receive at received
  unfold leadOn
  cases found : s.endpoint.streams[n]? with
  | none => simp [found] at received
  | some st =>
    cases pend : st.pending with
    | cons ev rest => simp [found, pend] at received
    | nil =>
      cases opened : st.senderOpen
      · simp [found, pend, opened] at received
      · simp only [found, pend, opened, if_true, Prod.mk.injEq] at received
        exact ⟨by simp [leadOf, pend, opened], received.1.symm⟩

/-- The invariant reads only the operations and the requests made. -/
theorem Stands.of_same {s' : Session} (stands : s.Stands build items base answers)
    (ops : ∀ j, s'.op? j = s.op? j) (calls : s'.endpoint.calls = s.endpoint.calls) :
    s'.Stands build items base answers := by
  obtain ⟨below, others, op, hop, rest⟩ := stands
  exact ⟨calls ▸ below, fun j other => (ops j).trans (others j other), op, (ops 0).trans hop,
    by rwa [requestsSince_of_calls base calls]⟩

theorem Stands.receive (stands : s.Stands build items base answers) (n : Nat) :
    (s.receive n).1.Stands build items base answers :=
  stands.of_same (fun j => by simp) (by simp)

theorem leadOn_of_endpoint {s' : Session} (same : s'.endpoint = s.endpoint) (n : Nat) :
    s'.leadOn n = s.leadOn n := by
  simp [leadOn, same]

/-- Giving a loop the task it already has changes nothing. -/
theorem op?_setTask_of_task {t : Task} (hop : s.op? 0 = some op) (task : op.task = t) (j : Nat) :
    (s.setTask 0 t).op? j = s.op? j := by
  by_cases zero : j = 0
  · subst zero
    simp [setTask, hop, ← task]
  · simp [setTask, zero]

/-- A rejected attempt leads to the next choice if a candidate remains, and
otherwise to giving up with the endpoint's failure; either way the loop
settles or its rank drops. -/
theorem stands_reject {a : PendingAttempt} (stands : s.Stands build items base answers)
    (hop : s.op? 0 = some op) (task : op.task = .running (.awaitingStart a)) (e : EndpointError) :
    ((s.reject 0 a e).1.setTask 0 (s.reject 0 a e).2.task).Stands build items base (answers ++ [.reject e]) ∧
      ((((s.reject 0 a e).1.setTask 0 (s.reject 0 a e).2.task).taskOf 0).Settled ∨
        (((s.reject 0 a e).1.setTask 0 (s.reject 0 a e).2.task).taskOf 0).rank <
          2 * a.cursor.attempts.length + 2) := by
  obtain ⟨below, others, live, built, opening, done, x, r, earlier, ⟨made, rejections, answered, counted⟩,
    attempts, building, calls, numbered, left⟩ := stands.running hop task
  unfold reject
  by_cases more : a.hasNext = true
  · -- another candidate remains: the attempt joins those tried and rejected
    simp only [more, if_true, LoopStep.task]
    refine ⟨⟨by simpa using below, fun j other => by simp [setTask, other, others j other],
      { op with task := .running (.choosing a.cursor a.attempts) }, by simp [setTask, hop], live, built, ?_⟩,
      .inr (by simp [taskOf, setTask, hop, Task.rank])⟩
    simp only [Course, Stage]
    refine ⟨opening, done ++ [x], ⟨?_, rejections ++ [e], by simp [answered], ?_⟩, by simp [attempts],
      by simp [numbered], .inr (left ▸ more)⟩
    · simp [calls, made, requested_map_ok_append, requested_ok_of_ok build building]
    · simp [calls, counted]
  · -- it was the last: the loop gives up with the endpoint's failure
    have last : a.cursor.attempts = [] :=
      CandidateCursor.hasNext_eq_false_iff.mp (left ▸ (by simpa using more))
    simp only [more, Bool.false_eq_true, if_false, LoopStep.task]
    have failed := stands_fail (s := s.dropReceiver a.stream)
      (by simpa using below) (fun j other => by simpa using others j other) (by simpa using hop) live built
      opening (show answers ++ [.reject e] = (rejections ++ [e]).map .reject by simp [answered])
      (by simp [calls, made, attempts, last, requested_map_ok_append, requested_ok_of_ok build building])
      (show GivesUp build items (rejections ++ [e]) (.endpoint e) from
        ⟨done, x, r, by simp [attempts, last], building, by simp⟩)
    exact failed.imp_right .inl

/-- A wait for an acknowledgment reads the attempt's stream. An
acknowledgment is taken, to be accepted next; a failure, a completion or the
end of the stream rejects the attempt; either way the rank drops or the loop
settles. An item is dropped and the loop waits on, one place closer to the
answer; so it does when there is nothing to read yet. -/
theorem loop_awaiting {a : PendingAttempt} (stands : s.Stands build items base answers)
    (hop : s.op? 0 = some op) (task : op.task = .running (.awaitingStart a)) :
    (s.move (.loop 0)).Stands build items base (answers ++ (s.answerTaken 0).toList) ∧
      (((s.move (.loop 0)).taskOf 0).Settled ∨ ((s.move (.loop 0)).taskOf 0).rank < (s.taskOf 0).rank ∨
        ((s.move (.loop 0)).taskOf 0 = s.taskOf 0 ∧
          ∀ k, s.leadOn a.stream = some k → ∃ j, k = j + 1 ∧ (s.move (.loop 0)).leadOn a.stream = some j)) := by
  have live : op.canceled = false := (stands.running hop task).2.2.1
  have rank : (s.taskOf 0).rank = 2 * a.cursor.attempts.length + 2 := by
    simp [taskOf, hop, task, Task.rank]
  have same : (s.taskOf 0) = .running (.awaitingStart a) := by simp [taskOf, hop, task]
  have stepped : s.move (.loop 0) = (s.stepLoop 0 (.awaitingStart a)).1.setTask 0
      (s.stepLoop 0 (.awaitingStart a)).2.task := by
    simp [move, loopMove_running hop task]
  have taken : s.answerTaken 0 = (s.receive a.stream).2.answer := by
    simp [answerTaken, hop, task, live]
  have kept := stands.receive a.stream
  have hop₁ : (s.receive a.stream).1.op? 0 = some op := by simp [hop]
  rw [stepped, rank, taken]
  simp only [stepLoop, hop, live, Bool.false_eq_true, if_false]
  generalize received : s.receive a.stream = result at kept hop₁ ⊢
  obtain ⟨s₁, got⟩ := result
  dsimp only at kept hop₁ ⊢
  rcases got with (id | payload | e | _) | _ | _
  · -- an acknowledgment: taken, to be accepted at the next step
    simp only [LoopStep.task]
    obtain ⟨below, others, live, built, opening, done, x, r, earlier, tried, attempts, building, calls, -, -⟩ :=
      kept.running hop₁ task
    refine ⟨⟨by simpa using below, fun j other => by simp [setTask, other, others j other],
      { op with task := .running (.activating a.stream id) }, by simp [setTask, hop₁], live, built, ?_⟩,
      .inr (.inl (by simp [taskOf, setTask, hop₁, Task.rank]))⟩
    simp only [Course, Stage]
    exact ⟨opening, done, x, r, a.cursor.attempts, earlier, answers, attempts, building, tried,
      by simpa using calls, by simp [Received.answer]⟩
  · -- an item before the acknowledgment: dropped, one place closer to the answer
    simp only [LoopStep.task]
    have unchanged : ∀ j, ((s₁.log .warn "Dropping item delivered before the subscription started" []).setTask 0
        (.running (.awaitingStart a))).op? j = s₁.op? j := fun j =>
      (op?_setTask_of_task (by simpa using hop₁) task j).trans (by simp)
    refine ⟨by simpa [Received.answer] using kept.of_same unchanged (by simp),
      .inr (.inr ⟨by simp [taskOf, unchanged, hop₁, hop, task], fun k lead => ?_⟩)⟩
    obtain ⟨j, rfl, lead'⟩ := leadOn_of_receive_next received lead
    exact ⟨j, rfl, (leadOn_of_endpoint (by simp) a.stream).trans lead'⟩
  · simpa [Received.answer] using (stands_reject kept hop₁ task e).imp_right (Or.imp_right Or.inl)
  · simpa [Received.answer] using (stands_reject kept hop₁ task .closed).imp_right (Or.imp_right Or.inl)
  · simpa [Received.answer] using (stands_reject kept hop₁ task .closed).imp_right (Or.imp_right Or.inl)
  · -- nothing to read yet: the loop waits on, as it was
    simp only [LoopStep.task]
    obtain ⟨none, rfl⟩ := leadOn_of_receive_empty received
    have unchanged := op?_setTask_of_task hop task
    refine ⟨by simpa [Received.answer] using stands.of_same unchanged (by simp),
      .inr (.inr ⟨by simp [taskOf, unchanged, hop, task], fun k lead => by simp [none] at lead⟩)⟩

/-- An acknowledgment taken while the operation is still starting and was
never acknowledged is accepted: the operation becomes active under it, tells
its subscriber so, and its loop forwards the subscription. -/
theorem loop_activating {n : Nat} {id : String} (stands : s.Stands build items base answers)
    (hop : s.op? 0 = some op) (task : op.task = .running (.activating n id)) :
    (s.move (.loop 0)).Stands build items base answers ∧ ((s.move (.loop 0)).taskOf 0).Settled := by
  obtain ⟨below, others, live, built, ⟨phase, fresh, quiet⟩, acked⟩ := stands.running hop task
  have stepped : s.move (.loop 0) = ((((s.setPhase 0 (.active id)).modifyOp 0
      ({ · with acknowledged := true })).log .info "Subscription started"
      [("subscription_id", .string id)]).emit 0 (.started id)).setTask 0 (.running (.forwarding n)) := by
    simp [move, loopMove_running hop task, stepLoop, hop, activate, phaseOf, phase, fresh, LoopStep.task]
  have active : (s.move (.loop 0)).op? 0 = some
      { op with phase := .active id, acknowledged := true, events := op.events ++ [.started id],
                task := .running (.forwarding n) } := by
    simp [stepped, setTask, setPhase, emit, hop]
  refine ⟨⟨by simpa [stepped] using below,
    fun j other => by simp [stepped, setTask, setPhase, emit, other, others j other], _, active, live, built,
    ?_⟩, by simp [taskOf, active, Task.Settled]⟩
  simp only [Course, Stage]
  exact ⟨id, by simp, by simp [quiet, SubscriptionEvent.isUsage], by simpa [stepped] using acked⟩

/-- The invariant reads an operation only through its loop, phase,
acknowledgment and what its subscriber sees. -/
theorem course_of_same {calls : List (AuthType × Request)} {op' : Operation}
    (course : Course build items calls answers op) (task : op'.task = op.task) (phase : op'.phase = op.phase)
    (acknowledged : op'.acknowledged = op.acknowledged) (shown : visible op'.events = visible op.events) :
    Course build items calls answers op' := by
  unfold Course at course ⊢
  rw [task]
  cases held : op.task with
  | none =>
    rw [held] at course
    simp only [phase, shown]
    exact course
  | running point =>
    rw [held] at course
    cases point <;> simp only [Stage, Opening, phase, acknowledged, shown] <;> exact course
  | aborting point =>
    rw [held] at course
    exact course

/-- Sending on a stream keeps any answer it holds where it is. -/
theorem leadOn_send {n k : Nat} (lead : s.leadOn n = some k) (m : Nat) (event : EndpointEvent) :
    ({ s with endpoint := (s.endpoint.send m event).1 } : Session).leadOn n = some k := by
  unfold ScriptedEndpoint.send
  cases found : s.endpoint.streams[m]? with
  | none => simpa using lead
  | some st =>
    by_cases held : (st.senderOpen && st.receiverOpen) = true
    · simp only [held, if_true]
      by_cases same : m = n
      · subst same
        have opened : st.senderOpen = true := by simp_all
        simp only [leadOn, found] at lead
        rw [opened] at lead
        simp [leadOn, ScriptedEndpoint.modifyStream, found, opened, leadOf_append lead]
      · simpa [leadOn, ScriptedEndpoint.modifyStream, List.getElem?_modify, same] using lead
    · simpa [held] using lead

/-- Closing a stream keeps any answer it holds where it is. -/
theorem leadOn_closeSender {n k : Nat} (lead : s.leadOn n = some k) (m : Nat) :
    ({ s with endpoint := s.endpoint.closeSender m } : Session).leadOn n = some k := by
  by_cases same : m = n
  · subst same
    cases found : s.endpoint.streams[m]? with
    | none => simpa [leadOn, ScriptedEndpoint.closeSender, ScriptedEndpoint.modifyStream, found] using lead
    | some st =>
      simp only [leadOn, found] at lead
      simp [leadOn, ScriptedEndpoint.closeSender, ScriptedEndpoint.modifyStream, found, leadOf_closed lead]
  · simpa [leadOn, ScriptedEndpoint.closeSender, ScriptedEndpoint.modifyStream, List.getElem?_modify, same]
      using lead

/-- Dropping an aborted loop and ending a drain find nothing to do while the
loop runs short of draining. -/
theorem move_inert {point : LoopPoint} {i : Nat} {m : Move} (hop : s.op? 0 = some op)
    (task : op.task = .running point) (notDraining : ∀ n deadline expired, point ≠ .draining n deadline expired)
    (others : ∀ j, j ≠ 0 → s.op? j = none) (kind : m = .drop i ∨ m = .expire i ∨ m = .timeout i) :
    s.move m = s := by
  by_cases zero : i = 0
  · subst zero
    rcases kind with rfl | rfl | rfl <;> cases point <;>
      simp_all [move, dropMove, expireMove, timeoutMove, taskOf]
  · rcases kind with rfl | rfl | rfl <;> exact move_of_op?_none s _ (others i zero) rfl

/-- Every move but a step of the loop or a cancellation leaves the loop where
it stands, short of settling, and the invariant with it; an answer on a
stream stays where it is. -/
theorem stands_move_other (stands : s.Stands build items base answers) (unsettled : ¬(s.taskOf 0).Settled)
    {m : Move} (stepless : m ≠ .loop 0) (uncanceled : m ≠ .cancel 0) :
    (s.move m).Stands build items base answers ∧ (s.move m).taskOf 0 = s.taskOf 0 ∧
      ∀ n k, s.leadOn n = some k → (s.move m).leadOn n = some k := by
  obtain ⟨below, others, op, hop, live, built, course⟩ := stands
  have stands : s.Stands build items base answers := ⟨below, others, op, hop, live, built, course⟩
  -- the loop stands at a point short of forwarding, where the operation is still starting
  have running : ∃ point, op.task = .running point ∧ op.phase = .starting ∧
      ∀ n deadline expired, point ≠ .draining n deadline expired := by
    unfold Course at course
    rcases task : op.task with _ | point | point <;> rw [task] at course
    · exact absurd (by simp [taskOf, hop, task, Task.Settled]) unsettled
    · cases point with
      | forwarding n => exact absurd (by simp [taskOf, hop, task, Task.Settled]) unsettled
      | draining => exact course.elim
      | announcing | choosing | awaitingStart | activating =>
        exact ⟨_, rfl, course.1.1, fun _ _ _ stop => by cases stop⟩
    · exact course.elim
  obtain ⟨point, task, phase, notDraining⟩ := running
  cases m with
  | start i =>
    by_cases zero : i = 0
    · -- starting again only tells the subscriber of the misuse
      subst zero
      simp only [move]
      have started : (s.start 0).op? 0 = some
          { op with candidates := none,
                    events := op.events ++ [.error (.usage "subscription was already started")] } := by
        simp [start, hop, phase, emit]
      refine ⟨⟨by simpa using below, fun j other => by simp [op?_start_ne s other, others j other], _, started,
        live, built, ?_⟩, by simp [taskOf, started, hop], fun n k lead => by simpa [leadOn] using lead⟩
      rw [requestsSince_start]
      exact course_of_same course rfl rfl rfl (by simp [SubscriptionEvent.isUsage])
    · rw [move_of_op?_none s _ (others i zero) rfl]
      exact ⟨stands, rfl, fun _ _ lead => lead⟩
  | cancel i =>
    have other : i ≠ 0 := fun zero => uncanceled (by rw [zero])
    rw [move_of_op?_none s _ (others i other) rfl]
    exact ⟨stands, rfl, fun _ _ lead => lead⟩
  | loop i =>
    have other : i ≠ 0 := fun zero => stepless (by rw [zero])
    rw [move_of_op?_none s _ (others i other) rfl]
    exact ⟨stands, rfl, fun _ _ lead => lead⟩
  | drop i =>
    rw [move_inert hop task notDraining others (.inl rfl)]
    exact ⟨stands, rfl, fun _ _ lead => lead⟩
  | expire i =>
    rw [move_inert hop task notDraining others (.inr (.inl rfl))]
    exact ⟨stands, rfl, fun _ _ lead => lead⟩
  | timeout i =>
    rw [move_inert hop task notDraining others (.inr (.inr rfl))]
    exact ⟨stands, rfl, fun _ _ lead => lead⟩
  | send m event =>
    exact ⟨stands.of_same (fun j => rfl) (by simp [move]), rfl, fun n k lead => leadOn_send lead m event⟩
  | close m =>
    exact ⟨stands.of_same (fun j => rfl) (by simp [move, ScriptedEndpoint.closeSender,
      ScriptedEndpoint.modifyStream]), rfl, fun n k lead => leadOn_closeSender lead m⟩

/-- A step of the loop, short of settling, keeps the invariant with the answer
it reads. It settles the loop or lowers its rank, or else the loop waits for
an acknowledgment and stays where it stands, having read an item before the
answer on its stream, or nothing yet. -/
theorem loop_advances (stands : s.Stands build items base answers) (unsettled : ¬(s.taskOf 0).Settled) :
    (s.move (.loop 0)).Stands build items base (answers ++ (s.answerTaken 0).toList) ∧
      ((((s.move (.loop 0)).taskOf 0).Settled ∨ ((s.move (.loop 0)).taskOf 0).rank < (s.taskOf 0).rank) ∨
        ∃ a, s.taskOf 0 = .running (.awaitingStart a) ∧ (s.move (.loop 0)).taskOf 0 = s.taskOf 0 ∧
          ∀ k, s.leadOn a.stream = some k → ∃ j, k = j + 1 ∧ (s.move (.loop 0)).leadOn a.stream = some j) := by
  obtain ⟨below, others, op, hop, live, built, course⟩ := stands
  have stands : s.Stands build items base answers := ⟨below, others, op, hop, live, built, course⟩
  have quiet : ∀ point, op.task = .running point → (∀ a, point ≠ .awaitingStart a) → s.answerTaken 0 = none :=
    fun point task notWaiting => by
      cases point <;> simp_all [answerTaken]
  unfold Course at course
  rcases task : op.task with _ | point | point <;> rw [task] at course
  · exact absurd (by simp [taskOf, hop, task, Task.Settled]) unsettled
  · cases point with
    | announcing cursor =>
      rw [quiet _ task (fun _ stop => by cases stop), Option.toList_none, List.append_nil]
      exact (loop_announcing stands hop task).imp_right fun lower => .inl (.inr lower)
    | choosing cursor k =>
      rw [quiet _ task (fun _ stop => by cases stop), Option.toList_none, List.append_nil]
      exact (loop_choosing stands hop task).imp_right .inl
    | awaitingStart a =>
      obtain ⟨kept, settled | lower | waits⟩ := loop_awaiting stands hop task
      · exact ⟨kept, .inl (.inl settled)⟩
      · exact ⟨kept, .inl (.inr lower)⟩
      · exact ⟨kept, .inr ⟨a, by simp [taskOf, hop, task], waits⟩⟩
    | activating n id =>
      rw [quiet _ task (fun _ stop => by cases stop), Option.toList_none, List.append_nil]
      exact (loop_activating stands hop task).imp_right fun settled => .inl (.inl settled)
    | forwarding n => exact absurd (by simp [taskOf, hop, task, Task.Settled]) unsettled
    | draining => exact course.elim
  · exact course.elim

/-- Any move but a cancellation, short of settling, keeps the invariant with
the answer it reads, and either advances the loop, settling it or lowering
its rank, or leaves it where it stands. In the second case only a waiting
loop's own step moves the answer on its stream, one place closer; any other
move leaves every answer where it is. -/
theorem move_advances (stands : s.Stands build items base answers) (unsettled : ¬(s.taskOf 0).Settled)
    {m : Move} (uncanceled : m ≠ .cancel 0) :
    (s.move m).Stands build items base (answers ++ (s.answerIn 0 m).toList) ∧
      ((((s.move m).taskOf 0).Settled ∨ ((s.move m).taskOf 0).rank < (s.taskOf 0).rank) ∨
        ((s.move m).taskOf 0 = s.taskOf 0 ∧
          (m = .loop 0 → ∃ a, s.taskOf 0 = .running (.awaitingStart a)) ∧
          ∀ a, s.taskOf 0 = .running (.awaitingStart a) → ∀ k, s.leadOn a.stream = some k →
            ∃ j, j ≤ k ∧ (s.move m).leadOn a.stream = some j ∧ (m = .loop 0 → j + 1 = k))) := by
  by_cases stepping : m = .loop 0
  · subst stepping
    obtain ⟨kept, advanced | ⟨a, waiting, same, closer⟩⟩ := loop_advances stands unsettled
    · exact ⟨by simpa [answerIn] using kept, .inl advanced⟩
    · refine ⟨by simpa [answerIn] using kept, .inr ⟨same, fun _ => ⟨a, waiting⟩, fun a' waiting' k lead => ?_⟩⟩
      cases waiting.symm.trans waiting'
      obtain ⟨j, rfl, lead'⟩ := closer k lead
      exact ⟨j, by omega, lead', fun _ => rfl⟩
  · have noAnswer : s.answerIn 0 m = none := by
      cases m <;> simp_all [answerIn]
    obtain ⟨kept, same, leads⟩ := stands_move_other stands unsettled stepping uncanceled
    refine ⟨by simpa [noAnswer] using kept, .inr ⟨same, fun stepped => absurd stepped stepping,
      fun a _ k lead => ⟨k, Nat.le_refl k, leads a.stream k lead, fun stepped => absurd stepped stepping⟩⟩⟩

end Steps

/-! ## Schedules -/

/-- `along` over a run in two parts. -/
theorem along_append {α : Type} (f : Session → Move → Option α) (s : Session) (ms ms' : List Move) :
    along f s (ms ++ ms') = along f s ms ++ along f (s.runMoves ms) ms' := by
  induction ms generalizing s with
  | nil => rfl
  | cons m ms ih => simp [ih]

/-- The session after the first `t` moves of a schedule. -/
def trace (s : Session) (σ : Nat → Move) (t : Nat) : Session := s.runMoves ((List.range t).map σ)

/-- The answers operation 0's loop reads in the first `t` moves of a schedule. -/
def answersAlong (s : Session) (σ : Nat → Move) (t : Nat) : List Answer :=
  along (fun s m => s.answerIn 0 m) s ((List.range t).map σ)

theorem trace_succ (s : Session) (σ : Nat → Move) (t : Nat) :
    s.trace σ (t + 1) = (s.trace σ t).move (σ t) := by
  simp [trace, List.range_succ, runMoves_append]

theorem answersAlong_succ (s : Session) (σ : Nat → Move) (t : Nat) :
    s.answersAlong σ (t + 1) = s.answersAlong σ t ++ ((s.trace σ t).answerIn 0 (σ t)).toList := by
  simp [answersAlong, trace, List.range_succ, along_append]

/-- A session of one operation, just started: its loop is about to announce
the request. -/
def launch (request : Request) (source : CandidateSource) (decorator : Decorator)
    (endpoint : ScriptedEndpoint) : Session :=
  ({ operations := [Operation.new request source decorator], endpoint } : Session).start 0

/-- What is assumed of a schedule of moves from `s`: operation 0 is never
canceled; its loop takes a step again and again; and every stream it waits
on for an acknowledgment comes to hold an answer. -/
structure Attentive (s : Session) (σ : Nat → Move) : Prop where
  uncanceled : ∀ t, σ t ≠ .cancel 0
  scheduled : ∀ t, ∃ u, t ≤ u ∧ σ u = .loop 0
  answering : ∀ t a, (s.trace σ t).taskOf 0 = .running (.awaitingStart a) →
    ∃ u, t ≤ u ∧ (s.trace σ u).Answers a.stream

/-- The launched operation stands at its announcement, with every attempt of
its source before it. -/
theorem stands_launch (request : Request) (source : CandidateSource) (decorator : Decorator)
    (endpoint : ScriptedEndpoint) :
    (launch request source decorator endpoint).Stands (attemptRequest request decorator) source.attempts
      endpoint.calls.length [] := by
  have launched : (launch request source decorator endpoint).op? 0 = some
      { Operation.new request source decorator with
        phase := .starting, candidates := none, task := .running (.announcing (.ofSource source)),
        loopHandle := true } := by
    simp [launch, start, Operation.new]
  refine ⟨by simp [launch], fun j other => ?_, _, launched, rfl, rfl, ?_⟩
  · simp [launch, start, Operation.new, other]
  · simp only [Course, Stage, Opening]
    exact ⟨⟨by simp, by simp [Operation.new], by simp [Operation.new]⟩, CandidateCursor.attempts_ofSource source,
      by simp [launch, requestsSince], by simp⟩

/-! ## The loop settles -/

/-- The loop has advanced by time `v` of a schedule from where it stood at
time `t`: the invariant holds at `v`, and the loop has settled or its rank
has dropped. -/
def Advanced (build : Attempt → Except DecorationError Request) (items : List (Except CandidateError Attempt))
    (base : Nat) (s₀ : Session) (σ : Nat → Move) (t v : Nat) : Prop :=
  (s₀.trace σ v).Stands build items base (s₀.answersAlong σ v) ∧
    (((s₀.trace σ v).taskOf 0).Settled ∨ ((s₀.trace σ v).taskOf 0).rank < ((s₀.trace σ t).taskOf 0).rank)

/-- The loop stands at time `v` of a schedule where it stood at time `t`,
the invariant holding. -/
def Stays (build : Attempt → Except DecorationError Request) (items : List (Except CandidateError Attempt))
    (base : Nat) (s₀ : Session) (σ : Nat → Move) (t v : Nat) : Prop :=
  (s₀.trace σ v).Stands build items base (s₀.answersAlong σ v) ∧
    (s₀.trace σ v).taskOf 0 = (s₀.trace σ t).taskOf 0

section Run

variable {build : Attempt → Except DecorationError Request} {items : List (Except CandidateError Attempt)}
  {base : Nat} {s₀ : Session} {σ : Nat → Move}

/-- What every move keeps, unless the loop advances past where it stood at
time `t`, holds from time `v` on until it does. -/
theorem holds_until {P : Nat → Prop} {t v : Nat} (later : t ≤ v) (start : P v)
    (step : ∀ w, v ≤ w → P w → Advanced build items base s₀ σ t (w + 1) ∨ P (w + 1)) (d : Nat) :
    (∃ w, t < w ∧ Advanced build items base s₀ σ t w) ∨ P (v + d) := by
  induction d with
  | zero => exact .inr start
  | succ d ih =>
    rcases ih with advanced | holds
    · exact .inl advanced
    · rcases step (v + d) (by omega) holds with advanced | holds
      · exact .inl ⟨v + d + 1, by omega, advanced⟩
      · exact .inr holds

/-- A move from where the loop stood at `t`, short of settling, advances it
or leaves it there. A step of its own leaves it there only while it waits,
having read an item before the answer on its stream; no other move moves an
answer. -/
theorem advances_or_stays (attentive : s₀.Attentive σ) {t w : Nat} (stays : Stays build items base s₀ σ t w)
    (unsettled : ¬((s₀.trace σ t).taskOf 0).Settled) :
    Advanced build items base s₀ σ t (w + 1) ∨
      (Stays build items base s₀ σ t (w + 1) ∧
        (σ w = .loop 0 → ∃ a, (s₀.trace σ t).taskOf 0 = .running (.awaitingStart a)) ∧
        ∀ a, (s₀.trace σ t).taskOf 0 = .running (.awaitingStart a) → ∀ k,
          (s₀.trace σ w).leadOn a.stream = some k → ∃ j, j ≤ k ∧
            (s₀.trace σ (w + 1)).leadOn a.stream = some j ∧ (σ w = .loop 0 → j + 1 = k)) := by
  obtain ⟨standsW, same⟩ := stays
  rw [← same] at unsettled
  obtain ⟨kept, advanced | ⟨stays, waiting, closer⟩⟩ :=
    move_advances standsW unsettled (attentive.uncanceled w)
  · left
    rw [Advanced, trace_succ, answersAlong_succ, ← same]
    exact ⟨kept, advanced⟩
  · right
    rw [Stays, trace_succ, answersAlong_succ, ← same]
    exact ⟨⟨kept, stays⟩, waiting, closer⟩

/-- A loop that stood waiting at `t`, and stands there still at `v` with the
answer at most `k` places down its stream, advances, or at a later time
stands there with the answer fewer than `k` places down: its next step comes,
and no move before it moves the answer back. -/
theorem advances_or_closer (attentive : s₀.Attentive σ) {t v k : Nat} {a : PendingAttempt}
    (waits : (s₀.trace σ t).taskOf 0 = .running (.awaitingStart a))
    (unsettled : ¬((s₀.trace σ t).taskOf 0).Settled) (later : t ≤ v)
    (stays : Stays build items base s₀ σ t v) (near : ∃ j, j ≤ k ∧ (s₀.trace σ v).leadOn a.stream = some j) :
    (∃ w, t < w ∧ Advanced build items base s₀ σ t w) ∨
      ∃ u, t ≤ u ∧ Stays build items base s₀ σ t u ∧
        ∃ j, j + 1 ≤ k ∧ (s₀.trace σ u).leadOn a.stream = some j := by
  obtain ⟨u, after, stepping⟩ := attentive.scheduled v
  rcases holds_until (P := fun w => Stays build items base s₀ σ t w ∧
      ∃ j, j ≤ k ∧ (s₀.trace σ w).leadOn a.stream = some j) later ⟨stays, near⟩
      (by
        intro w _ held
        obtain ⟨staysW, j, below, lead⟩ := held
        rcases advances_or_stays attentive staysW unsettled with advanced | ⟨kept, -, closer⟩
        · exact .inl advanced
        · obtain ⟨j', le, lead', -⟩ := closer a waits j lead
          exact .inr ⟨kept, j', by omega, lead'⟩) (u - v) with advanced | ⟨staysU, j, below, lead⟩
  · exact .inl advanced
  · rw [Nat.add_sub_cancel' after] at staysU lead
    rcases advances_or_stays attentive staysU unsettled with advanced | ⟨kept, -, closer⟩
    · exact .inl ⟨u + 1, by omega, advanced⟩
    · -- the scheduled step reads an item before the answer
      obtain ⟨j', -, lead', read⟩ := closer a waits j lead
      have closer : j' + 1 = j := read stepping
      exact .inr ⟨u + 1, by omega, kept, j', by omega, lead'⟩

/-- From wherever the loop stands short of settling, it advances at some
later time. Standing where it does not wait, its next step advances it, and
that step comes. Waiting, it gets its answer; its steps then read the items
before the answer one by one, and the step that reads the answer advances
it. -/
theorem eventually_advances (attentive : s₀.Attentive σ) {t : Nat}
    (stands : (s₀.trace σ t).Stands build items base (s₀.answersAlong σ t))
    (unsettled : ¬((s₀.trace σ t).taskOf 0).Settled) :
    ∃ v, t < v ∧ Advanced build items base s₀ σ t v := by
  -- the loop stays where it stood until it advances
  have staying : ∀ d, (∃ w, t < w ∧ Advanced build items base s₀ σ t w) ∨
      Stays build items base s₀ σ t (t + d) :=
    holds_until (P := Stays build items base s₀ σ t) (Nat.le_refl t) ⟨stands, rfl⟩
      fun w _ stays => (advances_or_stays attentive stays unsettled).imp_right And.left
  by_cases waiting : ∃ a, (s₀.trace σ t).taskOf 0 = .running (.awaitingStart a)
  · obtain ⟨a, waits⟩ := waiting
    -- the answer comes, some places down the stream
    obtain ⟨u, later, answered⟩ := attentive.answering t a waits
    rcases staying (u - t) with advanced | stays
    · exact advanced
    rw [Nat.add_sub_cancel' later] at stays
    obtain ⟨k, lead⟩ := Option.isSome_iff_exists.mp (leadOn_isSome_of_answers answered)
    -- by induction on the places before it, the loop reads up to it
    have reading : ∀ k v, t ≤ v → Stays build items base s₀ σ t v →
        (∃ j, j ≤ k ∧ (s₀.trace σ v).leadOn a.stream = some j) →
        ∃ w, t < w ∧ Advanced build items base s₀ σ t w := by
      intro k
      induction k with
      | zero =>
        intro v later stays near
        rcases advances_or_closer attentive waits unsettled later stays near with
          advanced | ⟨_, _, _, j, below, _⟩
        · exact advanced
        · omega
      | succ k ih =>
        intro v later stays near
        rcases advances_or_closer attentive waits unsettled later stays near with
          advanced | ⟨u, later', staysU, j, below, lead⟩
        · exact advanced
        · exact ih u later' staysU ⟨j, by omega, lead⟩
    exact reading k u later stays ⟨k, Nat.le_refl k, lead⟩
  · -- standing where it does not wait, its next step advances it
    obtain ⟨u, later, stepping⟩ := attentive.scheduled t
    rcases staying (u - t) with advanced | stays
    · exact advanced
    rw [Nat.add_sub_cancel' later] at stays
    rcases advances_or_stays attentive stays unsettled with advanced | ⟨-, stepped, -⟩
    · exact ⟨u + 1, by omega, advanced⟩
    · exact absurd (stepped stepping) waiting

/-- The loop settles at some time of the schedule, the invariant holding
there: each advance settles it or lowers its rank. -/
theorem eventually_settles (attentive : s₀.Attentive σ) (t : Nat)
    (stands : (s₀.trace σ t).Stands build items base (s₀.answersAlong σ t)) :
    ∃ v, (s₀.trace σ v).Stands build items base (s₀.answersAlong σ v) ∧ ((s₀.trace σ v).taskOf 0).Settled := by
  have settle : ∀ t, (s₀.trace σ t).Stands build items base (s₀.answersAlong σ t) →
      (∀ v, (s₀.trace σ v).Stands build items base (s₀.answersAlong σ v) →
        ((s₀.trace σ v).taskOf 0).rank < ((s₀.trace σ t).taskOf 0).rank →
        ∃ v, (s₀.trace σ v).Stands build items base (s₀.answersAlong σ v) ∧ ((s₀.trace σ v).taskOf 0).Settled) →
      ∃ v, (s₀.trace σ v).Stands build items base (s₀.answersAlong σ v) ∧ ((s₀.trace σ v).taskOf 0).Settled := by
    intro t stands lower
    by_cases settled : ((s₀.trace σ t).taskOf 0).Settled
    · exact ⟨t, stands, settled⟩
    · obtain ⟨v, -, standsV, settledV | dropped⟩ := eventually_advances attentive stands settled
      · exact ⟨v, standsV, settledV⟩
      · exact lower v standsV dropped
  -- by induction on a bound of the rank
  have bounded : ∀ r t, (s₀.trace σ t).Stands build items base (s₀.answersAlong σ t) →
      ((s₀.trace σ t).taskOf 0).rank ≤ r →
      ∃ v, (s₀.trace σ v).Stands build items base (s₀.answersAlong σ v) ∧ ((s₀.trace σ v).taskOf 0).Settled := by
    intro r
    induction r with
    | zero => exact fun t stands bound => settle t stands fun v _ dropped => absurd dropped (by omega)
    | succ r ih => exact fun t stands bound => settle t stands fun v standsV dropped => ih v standsV (by omega)
  exact bounded _ t stands (Nat.le_refl _)

/-- Where the invariant holds and the loop has settled, it has concluded. -/
theorem concludes_of_settled {s : Session} {answers : List Answer} (stands : s.Stands build items base answers)
    (settled : (s.taskOf 0).Settled) :
    ∃ op, s.op? 0 = some op ∧ Concludes build items (s.requestsSince base) answers op := by
  obtain ⟨-, -, op, hop, -, -, course⟩ := stands
  refine ⟨op, hop, ?_⟩
  unfold Course at course
  rcases task : op.task with _ | point | point <;> rw [task] at course
  · obtain ⟨phase, e, rejections, shown, answered, made, why⟩ := course
    exact .inr ⟨e, rejections, task, phase, shown, answered, made, why⟩
  · cases point with
    | forwarding n =>
      obtain ⟨id, phase, shown, acked⟩ := course
      obtain ⟨rejections, answered, counted, made⟩ := acked.concludes
      exact .inl ⟨n, id, rejections, task, phase, shown, answered, counted, made⟩
    | announcing | choosing | awaitingStart | activating | draining =>
      simp [taskOf, hop, task, Task.Settled] at settled
  · simp [taskOf, hop, task, Task.Settled] at settled

end Run

/-- The candidate loop of a started operation, never canceled, whose steps
keep coming and whose every awaited stream comes to hold an answer, settles.
It has then asked the endpoint, in order, for exactly the attempts before the
source's first failure whose request can be built, each with the original
request decorated for it when it asks for that, up to the first
acknowledged one; and it has either made the operation active under that
acknowledgment, with one `started` event, or failed it with one error event,
for the reason `GivesUp` gives. -/
theorem candidate_loop_settles (request : Request) (source : CandidateSource) (decorator : Decorator)
    (endpoint : ScriptedEndpoint) (σ : Nat → Move)
    (attentive : (launch request source decorator endpoint).Attentive σ) :
    ∃ t op, ((launch request source decorator endpoint).trace σ t).op? 0 = some op ∧
      Concludes (attemptRequest request decorator) source.attempts
        (((launch request source decorator endpoint).trace σ t).requestsSince endpoint.calls.length)
        ((launch request source decorator endpoint).answersAlong σ t) op := by
  obtain ⟨t, stands, settled⟩ :=
    eventually_settles attentive 0 (stands_launch request source decorator endpoint)
  obtain ⟨op, hop, concludes⟩ := concludes_of_settled stands settled
  exact ⟨t, op, hop, concludes⟩

/-- The default request launched with an API key before an endpoint whose one
stream closes at once. -/
def launchOnClosedStream : Session :=
  launch default (.fixed .apiKey) .passThrough { script := [⟨[], false⟩] }

/-- One configured type, an endpoint that closes the one stream it opens at
once, and a schedule of loop steps alone: the assumptions hold, and the loop
settles. -/
theorem candidate_loop_settles_on_closed_stream :
    launchOnClosedStream.Attentive (fun _ => .loop 0) ∧
    ∃ t op, (launchOnClosedStream.trace (fun _ => .loop 0) t).op? 0 = some op ∧
      Concludes (attemptRequest default .passThrough) (CandidateSource.fixed .apiKey).attempts
        ((launchOnClosedStream.trace (fun _ => .loop 0) t).requestsSince 0)
        (launchOnClosedStream.answersAlong (fun _ => .loop 0) t) op := by
  have attentive : launchOnClosedStream.Attentive (fun _ => .loop 0) := by
    -- the loop announces, chooses, waits on a closed stream, and has given up by the fourth step
    have gaveUp : (launchOnClosedStream.trace (fun _ => .loop 0) 3).taskOf 0 = .none := rfl
    have after : ∀ d, launchOnClosedStream.trace (fun _ => .loop 0) (3 + d) =
        launchOnClosedStream.trace (fun _ => .loop 0) 3 := by
      intro d
      induction d with
      | zero => rfl
      | succ d ih => rw [← Nat.add_assoc, trace_succ, ih]; simp [move, loopMove, gaveUp]
    refine ⟨fun _ stop => (by cases stop), fun t => ⟨t, Nat.le_refl t, rfl⟩,
      fun t a waits => ⟨t, Nat.le_refl t, ?_⟩⟩
    rcases t with _ | _ | _ | d
    · cases waits
    · cases waits
    · -- waiting on the one stream, which the endpoint closed at once
      cases waits
      intro st found
      cases found
      exact .inr rfl
    · rw [show d + 1 + 1 + 1 = 3 + d by omega, after, gaveUp] at waits
      cases waits
  exact ⟨attentive, candidate_loop_settles default (.fixed .apiKey) .passThrough
    { script := [⟨[], false⟩] } (fun _ => .loop 0) attentive⟩

end Session
end ModelSync
