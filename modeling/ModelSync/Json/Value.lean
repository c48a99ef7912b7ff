import ModelSync.Binary64.Shortest
import ModelSync.Dictionary
/-!
JSON values as this library holds them. A number is an integer while its
literal was integral and within `[-2^63, 2^64)`, and a binary64 number
otherwise. An object keeps its members sorted by key, each key once, so that
looking a key up, replacing a member and printing in key order are all
operations on one canonical list. Unlike a `Dictionary`, an object cannot
carry the proof of that order: its members are values of the type being
defined, and the kernel admits no proof about them in a constructor's field.
Objects are therefore built by inserting members, as a dictionary is.
-/
namespace ModelSync

/-- A JSON number: an integer in `[-2^63, 2^64)`, or a finite binary64 number. -/
inductive JsonNumber where
  | integer (value : Int)
  | float (value : Binary64)
  deriving DecidableEq, Inhabited, Repr

/-- A JSON value. Object members are sorted by key, with no key twice. -/
inductive JsonValue where
  | null
  | bool (value : Bool)
  | number (value : JsonNumber)
  | string (value : String)
  | array (items : List JsonValue)
  | object (members : List (String × JsonValue))
  deriving Inhabited, Repr

namespace JsonNumber

/-- The integers that stay integers: `-2^63 ≤ n < 2^64`. -/
def IntegerRange (n : Int) : Prop := -Int.pow 2 63 ≤ n ∧ n < Int.pow 2 64

instance (n : Int) : Decidable (IntegerRange n) := by
  unfold IntegerRange; infer_instance

/-- Text of a number: the decimal integer, or the shortest round-trip form. -/
def toText : JsonNumber → String
  | integer n => toString n
  | float x => x.toText

end JsonNumber

namespace JsonValue

/-- The member stored under `key`, if the value is an object holding one. -/
def get? (v : JsonValue) (key : String) : Option JsonValue :=
  match v with
  | object members => members.lookup key
  | _ => none

/-- Members with `key` set to `value`: replaced where present, otherwise
inserted at its place in key order. -/
def insertMember (key : String) (value : JsonValue) (members : List (String × JsonValue)) :
    List (String × JsonValue) :=
  Dictionary.insertEntry key value members

/-- An object built from members in any order; of two members with one key the
later wins. -/
def ofMembers (members : List (String × JsonValue)) : JsonValue :=
  object (members.foldl (fun acc (k, v) => insertMember k v acc) [])

/-- The object with `key` set to `value`; a non-object is treated as empty. -/
def insert (v : JsonValue) (key : String) (value : JsonValue) : JsonValue :=
  match v with
  | object members => object (insertMember key value members)
  | _ => object [(key, value)]

/-- A natural number as a JSON integer. -/
def nat (n : Nat) : JsonValue := number (.integer n)

/-- A JSON string or `null`. -/
def ofOption (s : Option String) : JsonValue :=
  match s with
  | some s => string s
  | none => null

/-- A list of strings as a JSON array. -/
def strings (items : List String) : JsonValue := array (items.map string)

end JsonValue

/-- What a decoder found where it expected something else, in the words of
its error messages. -/
inductive Unexpected where
  | null
  | bool (value : Bool)
  | integer (value : Int)
  | float (value : Binary64)
  | string (value : String)
  | sequence
  | map
  deriving Repr

/-- The kind of a value, as a decoder reports it. -/
def JsonValue.unexpected : JsonValue → Unexpected
  | .null => .null
  | .bool b => .bool b
  | .number (.integer n) => .integer n
  | .number (.float x) => .float x
  | .string s => .string s
  | .array _ => .sequence
  | .object _ => .map

end ModelSync
