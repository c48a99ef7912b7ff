import ModelSync.Subscription.Operation
import ModelSync.Subscription.Error
/-!
Building a subscription operation from its parts: a request, a candidate
source, an endpoint, an optional decorator (requests pass through without
one) and the runtime its loop will run on, given explicitly or found in the
surrounding context. The first missing part, in that order, refuses the
build with a usage failure.
-/
namespace ModelSync

/-- The parts of an operation collected so far. -/
structure OperationBuilder where
  request : Option Request := none
  candidates : Option CandidateSource := none
  hasEndpoint : Bool := false
  decorator : Decorator := .passThrough
  /-- Whether a runtime was handed to the builder. -/
  explicitRuntime : Bool := false
  /-- Whether the build happens inside a running runtime. -/
  ambientRuntime : Bool := true

/-- The text of a build outside any runtime. -/
def OperationBuilder.noRuntime : String :=
  "no tokio runtime: there is no reactor running, must be called from the context of a Tokio 1.x runtime"

/-- The operation, idle, or the usage failure for the first missing part. -/
def OperationBuilder.build (b : OperationBuilder) : Except SubscriptionError Operation := do
  let some request := b.request | throw (.usage "a subscription request is required")
  let some candidates := b.candidates | throw (.usage "an auth candidate source is required")
  if !b.hasEndpoint then throw (.usage "a subscription endpoint is required")
  if !b.explicitRuntime && !b.ambientRuntime then throw (.usage OperationBuilder.noRuntime)
  pure (Operation.new request candidates b.decorator)

end ModelSync
