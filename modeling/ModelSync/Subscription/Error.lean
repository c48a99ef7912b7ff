import ModelSync.Auth.Candidate
import ModelSync.Auth.Decorate
import ModelSync.Error
/-!
Subscription failures: what an endpoint reports, and what a subscription
delivers to its subscriber when it cannot go on or is misused. Each has a
message; a subscription failure also names its kind.
-/
namespace ModelSync

/-- A failure reported by a subscription endpoint. -/
inductive EndpointError where
  | connection (reason : String)
  | unauthorized (authType : AuthType) (reason : String)
  | rejected (reason : String)
  | closed
  | unknownSubscription (id : String)
  deriving DecidableEq, Repr

/-- The message of an endpoint failure. -/
def EndpointError.message : EndpointError → String
  | .connection r => "Connection failed: " ++ r
  | .unauthorized t r => "Unauthorized for " ++ t.wireName ++ ": " ++ r
  | .rejected r => "Subscription rejected: " ++ r
  | .closed => "Endpoint closed the subscription stream"
  | .unknownSubscription id => "Unknown subscription: " ++ id

/-- A failure delivered on a subscription's event channel. -/
inductive SubscriptionError where
  | usage (reason : String)
  | decoration (error : DecorationError)
  | endpoint (error : EndpointError)
  | candidateSource (error : CandidateError)
  | decode (reason : String)
  | authExhausted
  | engine (error : BuildError)

namespace SubscriptionError

/-- The message of a subscription failure. -/
def message : SubscriptionError → String
  | usage r => "Usage error: " ++ r
  | decoration e => "Decoration error: " ++ e.message
  | endpoint e => "Endpoint error: " ++ e.message
  | candidateSource e => "Candidate source error: " ++ e.message
  | decode r => "Undecodable subscription item: " ++ r
  | authExhausted => "No authorization candidate was available"
  | engine e => "Engine error: " ++ e.message

/-- The name of the failure's kind. -/
def kind : SubscriptionError → String
  | usage _ => "Usage"
  | decoration _ => "Decoration"
  | endpoint _ => "Endpoint"
  | candidateSource _ => "CandidateSource"
  | decode _ => "Decode"
  | authExhausted => "AuthExhausted"
  | engine _ => "Engine"

end SubscriptionError
end ModelSync
