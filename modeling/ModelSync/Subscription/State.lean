import ModelSync.Json.Value
/-!
The lifecycle of a subscription. It is built idle, starts trying candidates,
becomes active when the endpoint acknowledges one, and ends completed,
canceled or failed. The endpoint's id appears on activation and is carried
into every later phase; a subscription canceled or failed before that has
none.
-/
namespace ModelSync

/-- The observable state of a subscription. -/
inductive SubscriptionState where
  | idle
  | starting
  | active
  | completed
  | canceled
  | failed
  deriving DecidableEq, Repr

namespace SubscriptionState

/-- The state's name. -/
def name : SubscriptionState → String
  | idle => "idle"
  | starting => "starting"
  | active => "active"
  | completed => "completed"
  | canceled => "canceled"
  | failed => "failed"

/-- Terminal states never change again. -/
def isTerminal : SubscriptionState → Bool
  | completed | canceled | failed => true
  | _ => false

end SubscriptionState

/-- A subscription's phase, with the endpoint's id where it has one. -/
inductive Phase where
  | idle
  | starting
  | active (id : String)
  | completed (id : String)
  | canceled (id : Option String)
  | failed (id : Option String)
  deriving DecidableEq, Repr

namespace Phase

/-- The observable state of a phase. -/
def state : Phase → SubscriptionState
  | idle => .idle
  | starting => .starting
  | active _ => .active
  | completed _ => .completed
  | canceled _ => .canceled
  | failed _ => .failed

/-- The endpoint's id, once acknowledged. -/
def subscriptionId : Phase → Option String
  | idle | starting => none
  | active id | completed id => some id
  | canceled id | failed id => id

/-- The id while the subscription is active. -/
def activeId : Phase → Option String
  | active id => some id
  | _ => none

end Phase
end ModelSync
