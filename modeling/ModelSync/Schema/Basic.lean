import ModelSync.Dictionary
/-!
Model schemas: a model's fields with their types and associations, the custom
types its fields may use (looked up by the key they are stored under), and
its authorization rules. A schema is data only; `Schema.Validate` decides
whether it can be turned into documents.
-/
namespace ModelSync

/-- The type of a field: a built-in scalar, or a named enum, custom type or model. -/
inductive FieldType where
  | id
  | string
  | int
  | float
  | boolean
  | awsDate
  | awsTime
  | awsDateTime
  | awsTimestamp
  | awsEmail
  | awsJson
  | awsUrl
  | awsPhone
  | awsIpAddress
  | enum (name : String)
  | customType (name : String)
  | model (name : String)
  deriving DecidableEq, Repr, Inhabited

namespace FieldType

/-- The scalar types, each with its name in the schema's serialized form. -/
def scalars : List (String × FieldType) :=
  [("id", id), ("string", string), ("int", int), ("float", float), ("boolean", boolean),
   ("awsDate", awsDate), ("awsTime", awsTime), ("awsDateTime", awsDateTime),
   ("awsTimestamp", awsTimestamp), ("awsEmail", awsEmail), ("awsJson", awsJson),
   ("awsUrl", awsUrl), ("awsPhone", awsPhone), ("awsIpAddress", awsIpAddress)]

/-- The GraphQL name of the type: the scalar's name, or the enum, custom type
or model name itself. -/
def display : FieldType → String
  | id => "ID"
  | string => "String"
  | int => "Int"
  | float => "Float"
  | boolean => "Boolean"
  | awsDate => "AWSDate"
  | awsTime => "AWSTime"
  | awsDateTime => "AWSDateTime"
  | awsTimestamp => "AWSTimestamp"
  | awsEmail => "AWSEmail"
  | awsJson => "AWSJSON"
  | awsUrl => "AWSURL"
  | awsPhone => "AWSPhone"
  | awsIpAddress => "AWSIPAddress"
  | enum name | customType name | model name => name

end FieldType

/-- How a field relates to another model. -/
inductive Association where
  /-- The field refers to one record, whose id is sent under `targetName`. -/
  | belongsTo (targetName : String)
  /-- The field lists records that refer back; it is never sent or selected. -/
  | hasMany
  deriving DecidableEq, Repr

/-- A field of a model or of a custom type. -/
structure ModelField where
  name : String
  fieldType : FieldType
  required : Bool
  isArray : Bool := false
  readOnly : Bool := false
  association : Option Association := none
  deriving DecidableEq, Repr, Inhabited

namespace ModelField

/-- A required field. -/
def mkRequired (name : String) (fieldType : FieldType) : ModelField :=
  { name, fieldType, required := true }

/-- An optional field. -/
def mkOptional (name : String) (fieldType : FieldType) : ModelField :=
  { name, fieldType, required := false }

/-- A reference to one record of `model`, sent as its id under `target`. -/
def mkBelongsTo (name model target : String) : ModelField :=
  { name, fieldType := .model model, required := false, association := some (.belongsTo target) }

/-- A list of records of `model` that refer back. -/
def mkHasMany (name model : String) : ModelField :=
  { name, fieldType := .model model, required := false, isArray := true,
    association := some .hasMany }

/-- The same field holding a list. -/
def asArray (f : ModelField) : ModelField := { f with isArray := true }

/-- The same field, never sent in mutations. -/
def asReadOnly (f : ModelField) : ModelField := { f with readOnly := true }

/-- Whether the field lists records that refer back. -/
def isHasMany (f : ModelField) : Bool := f.association == some .hasMany

/-- The name its reference is sent under, for a belongs-to field. -/
def targetName? (f : ModelField) : Option String :=
  match f.association with
  | some (.belongsTo target) => some target
  | _ => none

end ModelField

/-- A custom type: a named group of fields. -/
structure CustomType where
  name : String
  fields : List ModelField
  deriving Repr, Inhabited

/-- Who a rule lets read a model. -/
inductive AuthStrategy where
  /-- The record's owner, named in an owner field. -/
  | owner
  /-- Members of listed groups. -/
  | group
  /-- Any signed-in caller. -/
  | signedIn
  /-- Anyone. -/
  | everyone
  /-- A custom authorizer. -/
  | custom
  deriving DecidableEq, Repr, Inhabited

/-- The strategies with their names in the serialized form. -/
def AuthStrategy.names : List (String × AuthStrategy) :=
  [("owner", .owner), ("group", .group), ("private", .signedIn), ("public", .everyone),
   ("custom", .custom)]

/-- The serialized name of a strategy. -/
def AuthStrategy.name : AuthStrategy → String
  | .owner => "owner"
  | .group => "group"
  | .signedIn => "private"
  | .everyone => "public"
  | .custom => "custom"

/-- Which identity service a rule relies on. -/
inductive AuthProvider where
  | userPools
  | oidc
  | iam
  | apiKey
  | function
  deriving DecidableEq, Repr

/-- The providers with their names in the serialized form. -/
def AuthProvider.names : List (String × AuthProvider) :=
  [("userPools", .userPools), ("oidc", .oidc), ("iam", .iam), ("apiKey", .apiKey),
   ("function", .function)]

/-- The serialized name of a provider. -/
def AuthProvider.name : AuthProvider → String
  | .userPools => "userPools"
  | .oidc => "oidc"
  | .iam => "iam"
  | .apiKey => "apiKey"
  | .function => "function"

/-- An authorization rule of a model. -/
structure AuthRule where
  strategy : AuthStrategy
  provider : Option AuthProvider := none
  /-- The field naming a record's owner. -/
  ownerField : String := "owner"
  /-- The token claim holding the caller's identity. -/
  identityClaim : String := "username"
  /-- The token claim listing the caller's groups. -/
  groupClaim : String := "cognito:groups"
  groups : List String := []
  deriving DecidableEq, Repr, Inhabited

namespace AuthRule

/-- A rule of the given strategy with every other setting at its default. -/
def ofStrategy (strategy : AuthStrategy) : AuthRule := { strategy }

/-- A group rule for the listed groups. -/
def forGroups (groups : List String) : AuthRule := { strategy := .group, groups }

/-- Whether this is an owner rule. -/
def isOwner (rule : AuthRule) : Bool := rule.strategy == .owner

end AuthRule

/-- A model's schema. Custom types are stored under keys, which may differ from
their own names; lookups go by key. -/
structure ModelSchema where
  name : String
  pluralName : Option String := none
  fields : List ModelField
  customTypes : Dictionary CustomType := Dictionary.empty
  authRules : List AuthRule := []
  deriving Inhabited

namespace ModelSchema

/-- The plural name: the one given, or the name with an `s`. -/
def plural (s : ModelSchema) : String := s.pluralName.getD (s.name ++ "s")

/-- The first field with this name. -/
def field? (s : ModelSchema) (name : String) : Option ModelField :=
  s.fields.find? fun f => f.name == name

/-- The custom type stored under this key. -/
def customType? (s : ModelSchema) (key : String) : Option CustomType := s.customTypes.get? key

/-- The owner rules, in order. -/
def ownerRules (s : ModelSchema) : List AuthRule := s.authRules.filter AuthRule.isOwner

/-- Whether the model has an owner rule. -/
def hasOwnerRule (s : ModelSchema) : Bool := s.authRules.any AuthRule.isOwner

/-- The schema with a custom type stored under its own name, replacing any
type stored there. -/
def withCustomType (s : ModelSchema) (t : CustomType) : ModelSchema :=
  { s with customTypes := s.customTypes.insert t.name t }

/-- The schema with one more rule at the end. -/
def withAuthRule (s : ModelSchema) (rule : AuthRule) : ModelSchema :=
  { s with authRules := s.authRules ++ [rule] }

end ModelSchema
end ModelSync
