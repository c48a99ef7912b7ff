import ModelSync.Subscription.Error
import ModelSync.Response
/-!
Signals: what an endpoint sends for one subscription request, and what a
subscription delivers to its subscriber. A subscriber sees `started` before
any item, and nothing after `completed` or a failure, except a failure to
release after a cancellation.
-/
namespace ModelSync

/-- A signal from the endpoint about one subscription request. -/
inductive EndpointEvent where
  /-- The backend acknowledged the subscription under this id. -/
  | started (id : String)
  /-- A raw `{data, errors}` payload. -/
  | next (payload : JsonValue)
  | error (error : EndpointError)
  | completed

/-- A signal delivered to the subscriber. -/
inductive SubscriptionEvent where
  | started (id : String)
  | next (response : Response)
  | error (error : SubscriptionError)
  | completed

/-- The event as `{"started": id}`, `{"next": response}`,
`{"error": {"error", "message"}}` or `"completed"`. -/
def SubscriptionEvent.toJson : SubscriptionEvent → JsonValue
  | .started id => .object [("started", .string id)]
  | .next r => .object [("next", r.toJson)]
  | .error e =>
    .object [("error", .ofMembers [("error", .string e.kind), ("message", .string e.message)])]
  | .completed => .string "completed"

end ModelSync
