import ModelSync.Subscription.Registry
import ModelSync.Subscription.Builder
import ModelSync.Request.Subscription
import ModelSync.Client.Config
import ModelSync.Json.Write
/-!
Scenarios: a subscription to a model's changes, created directly or through a
client, driven by a list of actions against a scripted endpoint, with what
could be seen after each action.

After every action a step records the state, id and new events of the first
subscription (and of the others, when there are several), how many requests
the endpoint has received, every id it released in byte order, the action's
result and, when asked for, the records logged. With several subscriptions,
the records of a step are given in the order of their JSON text, since
shutting down visits the subscriptions in no fixed order.
-/
namespace ModelSync

/-- How a scenario's first subscription is created. -/
inductive Creation where
  /-- Built directly from these candidates; without a request the build is refused. -/
  | direct (candidates : CandidateSource) (withRequest : Bool)
  /-- Created by a client with this configuration. -/
  | client (config : ClientConfig)

/-- One thing a scenario does. -/
inductive ScenarioAction where
  | start (i : Nat)
  | cancel (i : Nat)
  | settle
  | push (event : EndpointEvent)
  | closeStream
  | shutdown
  | prune
  | registryLen
  | registryIsEmpty
  | advance (seconds : Nat)
  | subscribe
  | unregister (i : Nat)
  | registryState (i : Nat)

/-- What an action returns. -/
inductive ActionResult where
  | nothing
  | flag (value : Bool)
  | count (value : Nat)
  | state (value : Option SubscriptionState)

/-- The result as JSON: `null`, a boolean, a number, or a state name or `null`. -/
def ActionResult.toJson : ActionResult → JsonValue
  | .nothing => .null
  | .flag b => .bool b
  | .count n => .nat n
  | .state s => JsonValue.ofOption (s.map SubscriptionState.name)

/-- A scenario. -/
structure Scenario where
  schema : ModelSchema
  change : ChangeKind := .onCreate
  creation : Creation
  claims : Option ClaimSource := none
  script : List ScriptStep := []
  releaseError : Option EndpointError := none
  pausedClock : Bool := false
  captureLogs : Bool := false
  actions : List ScenarioAction

/-- Why a scenario could not be run. -/
inductive ScenarioError where
  /-- The subscription request could not be built. -/
  | build (error : BuildError)
  /-- The subscription could not be created. -/
  | subscription (error : SubscriptionError)
  /-- An action names no subscription, needs a client, or needs a paused clock. -/
  | invalidAction

/-- What one subscription showed after an action. -/
structure Observation where
  state : SubscriptionState
  subscriptionId : Option String
  events : List SubscriptionEvent

/-- The observation as `{"state", "subscription_id", "events"}`. -/
def Observation.toJson (o : Observation) : JsonValue :=
  .ofMembers [("state", .string o.state.name), ("subscription_id", .ofOption o.subscriptionId),
    ("events", .array (o.events.map SubscriptionEvent.toJson))]

/-- What could be seen after one action. -/
structure StepReport where
  main : Observation
  others : List Observation
  calls : Nat
  released : List String
  result : ActionResult
  logs : Option (List LogRecord)

/-- The step as JSON; `others` only with several subscriptions, `logs` only when captured. -/
def StepReport.toJson (r : StepReport) : JsonValue :=
  let base := r.main.toJson
  let base := base.insert "calls" (.nat r.calls)
  let base := base.insert "released" (.strings r.released)
  let base := base.insert "result" r.result.toJson
  let base := if r.others.isEmpty then base
    else base.insert "others" (.array (r.others.map Observation.toJson))
  match r.logs with
  | some logs => base.insert "logs" (.array (logs.map LogRecord.toJson))
  | none => base

/-- A whole run: the root field, the steps, and the requests the endpoint received. -/
structure ScenarioReport where
  field : String
  steps : List StepReport
  calls : List EndpointCall

/-- The report as `{"field", "steps", "calls": [{"auth_type", "variables", "content"}]}`. -/
def ScenarioReport.toJson (r : ScenarioReport) : JsonValue :=
  .ofMembers [("field", .string r.field), ("steps", .array (r.steps.map StepReport.toJson)),
    ("calls", .array (r.calls.map fun c => .ofMembers [("auth_type", .string c.authType.wireName),
      ("variables", .object c.request.variableValues), ("content", .string c.request.content)]))]

namespace Session

/-- Takes operation `i`'s new events, with its state and id. -/
def observe (s : Session) (i : Nat) : Session × Observation :=
  match s.op? i with
  | some op =>
    (s.modifyOp i ({ · with events := [] }), ⟨op.phase.state, op.phase.subscriptionId, op.events⟩)
  | none => (s, ⟨.idle, none, []⟩)

/-- Takes the logged records, in the order the step reports them. -/
def takeLogs (s : Session) : Session × List LogRecord :=
  let logs := if s.operations.length > 1 then
      s.logs.mergeSort fun a b => decide (a.toJson.render ≤ b.toJson.render)
    else s.logs
  ({ s with logs := [] }, logs)

/-- What could be seen after an action with this result. -/
def report (s : Session) (result : ActionResult) (captureLogs : Bool) : Session × StepReport :=
  let (s, main) := s.observe 0
  let (s, others) := (List.range s.operations.length).tail.foldl (fun (s, acc) i =>
    let (s, o) := s.observe i
    (s, acc ++ [o])) (s, [])
  let (s, logs) := s.takeLogs
  (s, { main, others, calls := s.endpoint.calls.length,
        released := s.endpoint.released.mergeSort fun a b => decide (a ≤ b),
        result, logs := if captureLogs then some logs else none })

end Session

namespace Scenario

/-- The decorator of the scenario's subscriptions. -/
def decorator (sc : Scenario) : Decorator :=
  match sc.claims with
  | some claims => .ownerClaims sc.schema claims
  | none => .passThrough

/-- A new subscription created by the scenario's client. -/
def clientOperation (sc : Scenario) (config : ClientConfig) :
    Except ScenarioError Operation := do
  let request ← (sc.schema.subscriptionRequest sc.change).mapError
    fun e => ScenarioError.subscription (.engine e)
  pure (Operation.new request (config.candidatesFor sc.schema) sc.decorator)

/-- The session with the first subscription created. -/
def begin (sc : Scenario) : Except ScenarioError Session := do
  let empty : Session :=
    { operations := [], endpoint := { script := sc.script, releaseError := sc.releaseError } }
  match sc.creation with
  | .direct source withRequest =>
    let request ← if withRequest then
        (sc.schema.subscriptionRequest sc.change).map some |>.mapError ScenarioError.build
      else pure none
    let builder : OperationBuilder :=
      { request, candidates := some source, hasEndpoint := true, decorator := sc.decorator }
    let op ← builder.build.mapError ScenarioError.subscription
    pure { empty with operations := [op] }
  | .client config =>
    let op ← sc.clientOperation config
    pure (empty.subscribe op sc.schema.name).1

/-- The client's configuration, for actions that need a client. -/
def clientConfig (sc : Scenario) : Except ScenarioError ClientConfig :=
  match sc.creation with
  | .client config => .ok config
  | .direct .. => .error .invalidAction

/-- Checks that an action's subscription exists. -/
def existing (s : Session) (i : Nat) : Except ScenarioError Nat :=
  if i < s.operations.length then .ok i else .error .invalidAction

/-- Performs one action. -/
def perform (sc : Scenario) (s : Session) : ScenarioAction → Except ScenarioError (Session × ActionResult)
  | .start i => do pure ((s.start (← existing s i)), .nothing)
  | .cancel i => do pure ((s.cancel (← existing s i)), .nothing)
  | .settle => pure (s.settle, .nothing)
  | .push event => let (s, b) := s.push event; pure (s, .flag b)
  | .closeStream => let (s, b) := s.closeStream; pure (s, .flag b)
  | .shutdown => do
    let _ ← sc.clientConfig
    let (s, n) := s.cancelAll
    pure (s, .count n)
  | .prune => do
    let _ ← sc.clientConfig
    let (s, n) := s.prune
    pure (s, .count n)
  | .registryLen => do
    let _ ← sc.clientConfig
    pure (s, .count s.registry.length)
  | .registryIsEmpty => do
    let _ ← sc.clientConfig
    pure (s, .flag s.registry.isEmpty)
  | .advance seconds =>
    if sc.pausedClock then pure (s.advance seconds, .nothing) else throw .invalidAction
  | .subscribe => do
    let op ← sc.clientOperation (← sc.clientConfig)
    let (s, i) := s.subscribe op sc.schema.name
    pure (s, .count i)
  | .unregister i => do
    let _ ← sc.clientConfig
    let (s, b) := s.unregister (← existing s i)
    pure (s, .flag b)
  | .registryState i => do
    let _ ← sc.clientConfig
    pure (s, .state (s.registeredState (← existing s i)))

/-- Runs the scenario. -/
def run (sc : Scenario) : Except ScenarioError ScenarioReport := do
  let s ← sc.begin
  let field := match s.op? 0 with
    | some op => op.request.field
    | none => ""
  let (s, steps) ← sc.actions.foldlM (fun (acc : Session × List StepReport) action => do
    let (s, result) ← sc.perform acc.1 action
    let (s, step) := s.report result sc.captureLogs
    pure (s, acc.2 ++ [step])) (s, [])
  pure { field, steps, calls := s.endpoint.calls }

end Scenario
end ModelSync
