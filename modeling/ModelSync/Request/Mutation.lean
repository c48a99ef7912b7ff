import ModelSync.Request.Selection
import ModelSync.Filter
import ModelSync.Record
/-!
Mutations: creating, updating and deleting a record. The mutation `<Verb><Name>`
over the root field `<verb><Name>` takes the record as `input` and, when the
predicate is not match-all, a `condition`; it selects the record back.

The input of a record is built field by field in schema order. Read-only and
has-many fields and fields the record lacks are skipped. A belongs-to field
sends the referenced id under its target name: a string or `null` as it is,
an object by its string `id`. A list field must hold an array or `null`.
Owner fields holding `null` are dropped at the end.

Creation and update check, in order: the schema, that the record belongs to
the schema's model, then the fields; an update then compiles its predicate.
A deletion compiles its predicate before it checks the schema.
-/
namespace ModelSync

/-- What a mutation does to a record. -/
inductive MutationKind where
  | create
  | update
  | delete
  deriving DecidableEq, Repr

/-- The capitalized verb of a mutation. -/
def MutationKind.verb : MutationKind → String
  | .create => "Create"
  | .update => "Update"
  | .delete => "Delete"

/-- The verb in lowercase, as in the root field. -/
def MutationKind.lowerVerb : MutationKind → String
  | .create => "create"
  | .update => "update"
  | .delete => "delete"

namespace ModelSchema

/-- The id sent for a belongs-to field's value. -/
def referenceId (s : ModelSchema) (f : ModelField) (value : JsonValue) :
    Except BuildError JsonValue :=
  match value with
  | .null => .ok .null
  | .string id => .ok (.string id)
  | .object members =>
    match members.lookup "id" with
    | some (.string id) => .ok (.string id)
    | _ => .error (.fieldAccess s.name f.name "referenced model has no id")
  | _ => .error (.fieldAccess s.name f.name "expected a model reference")

/-- The input with one more schema field of the record added. -/
def addInputField (s : ModelSchema) (r : ModelRecord) (input : Dictionary JsonValue)
    (f : ModelField) : Except BuildError (Dictionary JsonValue) :=
  if f.readOnly || f.isHasMany then .ok input
  else match r.fieldValue? f.name with
    | none => .ok input
    | some value =>
      match f.targetName? with
      | some target => (s.referenceId f value).map fun id => input.insert target id
      | none =>
        let listLike := match value with
          | .array _ | .null => true
          | _ => false
        if f.isArray && !listLike then .error (.fieldAccess s.name f.name "expected a list")
        else .ok (input.insert f.name value)

/-- The input sent for a record. -/
def mutationInput (s : ModelSchema) (r : ModelRecord) : Except BuildError (Dictionary JsonValue) := do
  s.validate
  if r.modelName ≠ s.name then
    throw (.fieldAccess s.name "id" ("record '" ++ r.id ++ "' is a '" ++ r.modelName ++ "'"))
  let input ← s.fields.foldlM (s.addInputField r) Dictionary.empty
  pure (s.removeNullOwnerFields input)

/-- The mutation of this kind with the given input and condition. -/
def mutationRequest (s : ModelSchema) (kind : MutationKind) (input : Dictionary JsonValue)
    (condition : Option JsonValue) : Except BuildError Request := do
  let selection ← s.recordSelection
  let base : Request :=
    { operationType := .mutation, operationName := kind.verb ++ s.name,
      field := kind.lowerVerb ++ s.name, modelName := s.name, selection }
  let withInput := base.withVariable "input" (kind.verb ++ s.name ++ "Input!") (.object input.entries)
  pure (match condition with
    | some c => withInput.withVariable "condition" ("Model" ++ s.name ++ "ConditionInput") c
    | none => withInput)

/-- The mutation creating a record. -/
def createRequest (s : ModelSchema) (r : ModelRecord) : Except BuildError Request := do
  let input ← s.mutationInput r
  s.mutationRequest .create input none

/-- The mutation updating a record expected at `version`, under a condition. -/
def updateRequest (s : ModelSchema) (r : ModelRecord) (version : Nat) (p : Predicate) :
    Except BuildError Request := do
  let input ← s.mutationInput r
  let input := input.insert "_version" (.nat version)
  let condition ← p.compile
  s.mutationRequest .update input condition

/-- The mutation deleting the record `id` expected at `version`, under a condition. -/
def deleteRequest (s : ModelSchema) (id : String) (version : Nat) (p : Predicate) :
    Except BuildError Request := do
  let condition ← p.compile
  s.mutationRequest .delete (.ofList [("_version", .nat version), ("id", .string id)]) condition

end ModelSchema
end ModelSync
