import ModelSync.Schema.Basic
import ModelSync.Error
import ModelSync.Json.Value
/-!
Model records: a model name, the record's id and its fields as they arrived.
A payload is a record when it is a JSON object whose `id` is a string.

Before a record is sent, owner fields holding `null` are dropped: an owner
field the caller left empty is filled in by the backend, and an explicit
`null` would clear it.
-/
namespace ModelSync

/-- A record of a model. -/
structure ModelRecord where
  modelName : String
  id : String
  fields : List (String × JsonValue)
  deriving Inhabited

namespace ModelRecord

/-- The record a payload denotes; fails unless it is an object with a string `id`. -/
def ofPayload (modelName : String) (payload : JsonValue) : Except BuildError ModelRecord :=
  match payload with
  | .object members =>
    match members.lookup "id" with
    | some (.string id) => .ok { modelName, id, fields := members }
    | _ => .error (.fieldAccess modelName "id" "missing string id")
  | _ => .error (.fieldAccess modelName "id" "payload must be an object")

/-- The value of a field, if the record has it. -/
def fieldValue? (r : ModelRecord) (name : String) : Option JsonValue := r.fields.lookup name

end ModelRecord

/-- The input without each owner rule's owner field where it holds `null`,
rules taken in order. -/
def ModelSchema.removeNullOwnerFields (s : ModelSchema) (input : Dictionary JsonValue) : Dictionary JsonValue :=
  s.ownerRules.foldl (fun acc rule =>
    match acc.get? rule.ownerField with
    | some .null => acc.erase rule.ownerField
    | _ => acc) input

end ModelSync
