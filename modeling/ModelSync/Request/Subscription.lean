import ModelSync.Request.Selection
/-!
Subscriptions to a model's changes: `On<Verb><Name>` over the root field
`on<Verb><Name>`, selecting the changed record, with no variables.
-/
namespace ModelSync

/-- Which changes a subscription reports. -/
inductive ChangeKind where
  | onCreate
  | onUpdate
  | onDelete
  deriving DecidableEq, Repr, Inhabited

/-- The change kinds by name. -/
def ChangeKind.names : List (String × ChangeKind) :=
  [("onCreate", .onCreate), ("onUpdate", .onUpdate), ("onDelete", .onDelete)]

/-- The verb of a change kind. -/
def ChangeKind.verb : ChangeKind → String
  | .onCreate => "Create"
  | .onUpdate => "Update"
  | .onDelete => "Delete"

/-- The subscription to this kind of change of the schema's records. -/
def ModelSchema.subscriptionRequest (s : ModelSchema) (kind : ChangeKind) :
    Except BuildError Request := do
  let selection ← s.recordSelection
  let request : Request :=
    { operationType := .subscription, operationName := "On" ++ kind.verb ++ s.name,
      field := "on" ++ kind.verb ++ s.name, modelName := s.name, selection }
  pure request

end ModelSync
