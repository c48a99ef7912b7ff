import ModelSync.Schema.Basic
import ModelSync.Json.Decode
/-!
The serialized form of schemas. Field names are camelCase except a
belongs-to association's `target_name`. A field type is a scalar's name, or an
object `{"enum"|"customType"|"model": name}`; an association is `"hasMany"` or
`{"belongsTo": {"target_name": t}}`. A schema, field, custom type or rule is
an object or an array of its fields in declaration order. Optional settings
fall back to their defaults when absent, and `null` clears an optional value. Writing omits an
absent plural name, provider or association and writes every other field.
-/
namespace ModelSync

open JsonValue

namespace FieldType

/-- Reads a field type. -/
def ofJson (v : JsonValue) : Decoded FieldType :=
  let named (tag : String) (name : JsonValue) : Decoded FieldType := do
    let n ← name.asString
    match tag with
    | "enum" => pure (.enum n)
    | "customType" => pure (.customType n)
    | _ => pure (.model n)
  match v with
  | .string s =>
    match scalars.lookup s with
    | some t => .ok t
    | none => .error (.unknownVariant s)
  | .object [(tag, value)] =>
    if tag = "enum" ∨ tag = "customType" ∨ tag = "model" then named tag value
    else match scalars.lookup tag, value with
      | some t, .null => .ok t
      | some _, other => .error (.invalidType other.unexpected "unit variant")
      | none, _ => .error (.unknownVariant tag)
  | other => .error (.invalidType other.unexpected "enum FieldType")

/-- Writes a field type. -/
def toJson : FieldType → JsonValue
  | enum name => .object [("enum", .string name)]
  | customType name => .object [("customType", .string name)]
  | model name => .object [("model", .string name)]
  | t => .string ((scalars.find? fun (_, u) => u == t).map Prod.fst |>.getD "")

end FieldType

namespace Association

/-- Reads an association. -/
def ofJson (v : JsonValue) : Decoded Association :=
  match v with
  | .string "hasMany" => .ok .hasMany
  | .object [("hasMany", .null)] => .ok .hasMany
  | .object [("belongsTo", body)] =>
    match body with
    | .object _ => do
      let target ← (← body.field "target_name").asString
      pure (.belongsTo target)
    | other => .error (.invalidType other.unexpected "struct variant")
  | other => .error (.invalidType other.unexpected "enum Association")

/-- Writes an association. -/
def toJson : Association → JsonValue
  | hasMany => .string "hasMany"
  | belongsTo target => .object [("belongsTo", .object [("target_name", .string target)])]

end Association

namespace ModelField

/-- Reads a field. -/
def ofJson (w : JsonValue) : Decoded ModelField := do
  let v ← asRecord ["name", "fieldType", "required", "isArray", "readOnly", "association"]
    "struct ModelField" w
  let name ← (← v.field "name").asString
  let fieldType ← FieldType.ofJson (← v.field "fieldType")
  let required ← (← v.field "required").asBool
  let isArray ← v.fieldOr "isArray" false asBool
  let readOnly ← v.fieldOr "readOnly" false asBool
  let association ← v.optField "association" Association.ofJson
  pure { name, fieldType, required, isArray, readOnly, association }

/-- Writes a field. -/
def toJson (f : ModelField) : JsonValue :=
  .ofMembers ([("name", .string f.name), ("fieldType", f.fieldType.toJson),
    ("required", .bool f.required), ("isArray", .bool f.isArray),
    ("readOnly", .bool f.readOnly)] ++
    (match f.association with
     | some a => [("association", a.toJson)]
     | none => []))

end ModelField

namespace CustomType

/-- Reads a custom type. -/
def ofJson (w : JsonValue) : Decoded CustomType := do
  let v ← asRecord ["name", "fields"] "struct CustomTypeSchema" w
  let name ← (← v.field "name").asString
  let fields ← (← v.field "fields").asListOf ModelField.ofJson
  pure { name, fields }

/-- Writes a custom type. -/
def toJson (t : CustomType) : JsonValue :=
  .ofMembers [("name", .string t.name), ("fields", .array (t.fields.map ModelField.toJson))]

end CustomType

namespace AuthRule

/-- Reads an authorization rule. -/
def ofJson (w : JsonValue) : Decoded AuthRule := do
  let v ← asRecord ["strategy", "provider", "ownerField", "identityClaim", "groupClaim", "groups"]
    "struct AuthRule" w
  let strategy ← asTag AuthStrategy.names (← v.field "strategy")
  let provider ← v.optField "provider" (asTag AuthProvider.names)
  let ownerField ← v.fieldOr "ownerField" "owner" asString
  let identityClaim ← v.fieldOr "identityClaim" "username" asString
  let groupClaim ← v.fieldOr "groupClaim" "cognito:groups" asString
  let groups ← v.fieldOr "groups" [] (asListOf asString)
  pure { strategy, provider, ownerField, identityClaim, groupClaim, groups }

/-- Writes an authorization rule. -/
def toJson (r : AuthRule) : JsonValue :=
  .ofMembers ([("strategy", .string r.strategy.name), ("ownerField", .string r.ownerField),
    ("identityClaim", .string r.identityClaim), ("groupClaim", .string r.groupClaim),
    ("groups", .strings r.groups)] ++
    (match r.provider with
     | some p => [("provider", .string p.name)]
     | none => []))

end AuthRule

namespace ModelSchema

/-- Reads custom types stored under keys. -/
def customTypesOfJson (v : JsonValue) : Decoded (Dictionary CustomType) := do
  let members ← v.asObject
  let decoded ← members.mapM fun (k, t) => do pure (k, ← CustomType.ofJson t)
  pure (Dictionary.ofList decoded)

/-- Reads a schema. -/
def ofJson (w : JsonValue) : Decoded ModelSchema := do
  let v ← asRecord ["name", "pluralName", "fields", "customTypes", "authRules"]
    "struct ModelSchema" w
  let name ← (← v.field "name").asString
  let pluralName ← v.optField "pluralName" asString
  let fields ← (← v.field "fields").asListOf ModelField.ofJson
  let customTypes ← v.fieldOr "customTypes" Dictionary.empty customTypesOfJson
  let authRules ← v.fieldOr "authRules" [] (asListOf AuthRule.ofJson)
  pure { name, pluralName, fields, customTypes, authRules }

/-- Writes a schema. -/
def toJson (s : ModelSchema) : JsonValue :=
  .ofMembers ([("name", .string s.name), ("fields", .array (s.fields.map ModelField.toJson)),
    ("customTypes", .object (s.customTypes.entries.map fun (k, t) => (k, t.toJson))),
    ("authRules", .array (s.authRules.map AuthRule.toJson))] ++
    (match s.pluralName with
     | some p => [("pluralName", .string p)]
     | none => []))

end ModelSchema
end ModelSync
