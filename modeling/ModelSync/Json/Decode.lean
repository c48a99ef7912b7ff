import ModelSync.Json.Value
import ModelSync.Text.Quoted
/-!
Decoding JSON values into typed data. A failure names what was found and what
was expected; `DecodeError.message` gives the wording, for instance
``invalid type: integer `5`, expected a sequence`` or ``missing field `message` ``.
The helpers here read fields the way derived decoders do: an absent optional
field or one holding `null` is `none`, and unknown fields are ignored.
-/
namespace ModelSync

/-- How a found value is named in a decoding error. -/
def Unexpected.text : Unexpected → String
  | .null => "null"
  | .bool b => "boolean `" ++ toString b ++ "`"
  | .integer n => "integer `" ++ toString n ++ "`"
  | .float x => "floating point `" ++ x.messageText ++ "`"
  | .string s => "string " ++ Text.quoted s
  | .sequence => "sequence"
  | .map => "map"

/-- Why a JSON value does not decode. -/
inductive DecodeError where
  /-- A value of the wrong kind. -/
  | invalidType (found : Unexpected) (expected : String)
  /-- A value of the right kind outside the accepted range. -/
  | invalidValue (found : Unexpected) (expected : String)
  /-- A sequence of the wrong length. -/
  | invalidLength (length : Nat) (expected : String)
  /-- A required field that is absent. -/
  | missingField (name : String)
  /-- A value that fits no alternative of an untagged choice. -/
  | noMatchingVariant (choice : String)
  /-- A name that is not one of a closed set. -/
  | unknownVariant (name : String)

/-- The wording of a decoding error. -/
def DecodeError.message : DecodeError → String
  | .invalidType found expected => "invalid type: " ++ found.text ++ ", expected " ++ expected
  | .invalidValue found expected => "invalid value: " ++ found.text ++ ", expected " ++ expected
  | .invalidLength n expected => "invalid length " ++ toString n ++ ", expected " ++ expected
  | .missingField name => "missing field `" ++ name ++ "`"
  | .noMatchingVariant choice => "data did not match any variant of untagged enum " ++ choice
  | .unknownVariant name => "unknown variant `" ++ name ++ "`"

/-- The result of decoding. -/
abbrev Decoded := Except DecodeError

namespace JsonValue

/-- A string. -/
def asString (v : JsonValue) : Decoded String :=
  match v with
  | string s => .ok s
  | other => .error (.invalidType other.unexpected "a string")

/-- A boolean. -/
def asBool (v : JsonValue) : Decoded Bool :=
  match v with
  | bool b => .ok b
  | other => .error (.invalidType other.unexpected "a boolean")

/-- The items of an array. -/
def asArray (v : JsonValue) : Decoded (List JsonValue) :=
  match v with
  | array items => .ok items
  | other => .error (.invalidType other.unexpected "a sequence")

/-- The members of an object. -/
def asObject (v : JsonValue) : Decoded (List (String × JsonValue)) :=
  match v with
  | object members => .ok members
  | other => .error (.invalidType other.unexpected "a map")

/-- An integer in `[lo, hi]`; `name` is the integer type's name in messages. -/
def asIntIn (lo hi : Int) (name : String) (v : JsonValue) : Decoded Int :=
  match v with
  | number (.integer n) => if lo ≤ n ∧ n ≤ hi then .ok n else .error (.invalidValue (.integer n) name)
  | other => .error (.invalidType other.unexpected name)

/-- An unsigned 64-bit integer. -/
def asU64 (v : JsonValue) : Decoded Nat :=
  (asIntIn 0 (Int.pow 2 64 - 1) "u64" v).map Int.toNat

/-- An unsigned 32-bit integer. -/
def asU32 (v : JsonValue) : Decoded Nat :=
  (asIntIn 0 (Int.pow 2 32 - 1) "u32" v).map Int.toNat

/-- A signed 64-bit integer. -/
def asI64 (v : JsonValue) : Decoded Int :=
  asIntIn (-Int.pow 2 63) (Int.pow 2 63 - 1) "i64" v

/-- A list whose items all decode. -/
def asListOf {α : Type} (item : JsonValue → Decoded α) (v : JsonValue) : Decoded (List α) := do
  let items ← v.asArray
  items.mapM item

/-- A required field of an object. -/
def field (v : JsonValue) (name : String) : Decoded JsonValue :=
  match v.get? name with
  | some x => .ok x
  | none => .error (.missingField name)

/-- An optional field: absent and `null` both give `none`. -/
def optField {α : Type} (v : JsonValue) (name : String) (item : JsonValue → Decoded α) :
    Decoded (Option α) :=
  match v.get? name with
  | none | some null => .ok none
  | some x => (item x).map some

/-- A field with a default used when it is absent; a present `null` must decode. -/
def fieldOr {α : Type} (v : JsonValue) (name : String) (fallback : α)
    (item : JsonValue → Decoded α) : Decoded α :=
  match v.get? name with
  | none => .ok fallback
  | some x => item x

/-- A value that must be an object; anything else is refused. -/
def requireObject (v : JsonValue) (expected : String) : Decoded Unit :=
  match v with
  | object _ => .ok ()
  | other => .error (.invalidType other.unexpected expected)

/-- One of the named alternatives of a closed set written as its name: the
name as a string, or an object holding the name as its only key with `null`,
or also with an empty object when `emptyIsUnit` holds. -/
def asTagWith {α : Type} (emptyIsUnit : Bool) (names : List (String × α)) (v : JsonValue) :
    Decoded α :=
  let pick (name : String) : Decoded α :=
    match names.lookup name with
    | some a => .ok a
    | none => .error (.unknownVariant name)
  match v with
  | string name => pick name
  | object [(name, null)] => pick name
  | object [(name, object [])] =>
    if emptyIsUnit then pick name else .error (.invalidType .map "unit variant")
  | other => .error (.invalidType other.unexpected "a variant name")

/-- One of the named alternatives of a closed set written as its name: the
name as a string, or an object holding the name as its only key with `null`. -/
def asTag {α : Type} (names : List (String × α)) (v : JsonValue) : Decoded α :=
  asTagWith false names v

/-- A record written as an object, whose members are found by name, or as an
array whose items are its fields in the order `names`, trailing ones left out.
Either way the result is an object holding the members present. -/
def asRecord (names : List String) (expected : String) (v : JsonValue) : Decoded JsonValue :=
  match v with
  | object members => .ok (object members)
  | array items =>
    if items.length ≤ names.length then .ok (object (names.zip items))
    else .error (.invalidLength items.length "fewer elements in array")
  | other => .error (.invalidType other.unexpected expected)

end JsonValue
end ModelSync
