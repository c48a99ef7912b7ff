import ModelSync.Schema.Basic
import ModelSync.Schema.Name
import ModelSync.Error
/-!
Schema validation. A schema can be turned into documents when its name, its
plural name and the owner field of every owner rule are GraphQL names, and
when the tree of fields reachable from the model's fields, entering each
custom-type field's type by its key, has GraphQL names for every field and
every belongs-to target, no custom type inside itself, and no missing type.

Checks run in that order, the fields depth first in declaration order, and
the first failure is reported. Each field's own name is checked before its
target, and a custom type is checked for a cycle before it is looked up.

The walk carries the path of custom types entered. Each entered type is
stored in the schema and differs from those already on the path, so the
depth never exceeds the number of stored types; the walk's budget is that
number plus one.
-/
namespace ModelSync.ModelSchema

/-- The schema's error for a text that is not a GraphQL name. -/
def nameError (s : ModelSchema) (name : String) : BuildError :=
  .schemaIntrospection s.name ("'" ++ name ++ "' is not a valid GraphQL name")

/-- Succeeds when `name` is a GraphQL name. -/
def checkName (s : ModelSchema) (name : String) : Except BuildError Unit :=
  if isGraphQLName name then .ok () else .error (s.nameError name)

/-- Checks the fields of one level and, through custom types, the levels
below, with `path` the custom types entered and `budget` the levels that may
still be entered. -/
def checkFields (s : ModelSchema) (budget : Nat) (path : List String) :
    List ModelField → Except BuildError Unit
  | [] => .ok ()
  | f :: rest => do
    s.checkName f.name
    match f.targetName? with
    | some target => s.checkName target
    | none => pure ()
    match f.fieldType with
    | .customType typeName =>
      if path.contains typeName then
        throw (.schemaIntrospection s.name ("custom type '" ++ typeName ++ "' contains itself"))
      match s.customType? typeName with
      | none => throw (.schemaIntrospection s.name ("unknown custom type '" ++ typeName ++ "'"))
      | some custom =>
        match budget with
        | 0 => pure ()
        | budget + 1 => s.checkFields budget (typeName :: path) custom.fields
      s.checkFields budget path rest
    | _ => s.checkFields budget path rest
termination_by fields => (budget, fields)

/-- Succeeds when the schema can be turned into documents. -/
def validate (s : ModelSchema) : Except BuildError Unit := do
  s.checkName s.name
  s.checkName s.plural
  for rule in s.ownerRules do
    s.checkName rule.ownerField
  s.checkFields (s.customTypes.size + 1) [] s.fields

end ModelSync.ModelSchema
