import ModelSync.Json.Decode
/-!
GraphQL responses: optional data and a list of errors, each with a message,
source locations, a path into the data and optional extensions.

A response is read from an object or from the array `[data, errors]`; an
error from an object or from `[message, locations, path, extensions]`; a
location from an object or from `[line, column]`. Of an object, unknown keys
are ignored and known ones are read in key order, so the first failing key in
that order is the one reported; required fields found missing are reported
after, in declaration order. Of an array, items are read in order and extra
items are refused after the known ones are read. Absent data and extensions
are `none` (as is `null`), absent lists are empty; a message is required, and
so are both coordinates of a location, each a 32-bit unsigned integer. A path
segment is a string or a 64-bit signed integer.
-/
namespace ModelSync

open JsonValue

/-- A position in the request document. -/
structure ErrorLocation where
  line : Nat
  column : Nat
  deriving Repr

/-- One step of a path into the response data. -/
inductive PathSegment where
  | key (name : String)
  | index (position : Int)
  deriving Repr

/-- An error reported with a response. -/
structure ResponseError where
  message : String
  locations : List ErrorLocation := []
  path : List PathSegment := []
  extensions : Option JsonValue := none
  deriving Repr

/-- A GraphQL response. -/
structure Response where
  data : Option JsonValue := none
  errors : List ResponseError := []
  deriving Repr

/-- The error for an array with items past the known fields. -/
def tooManyItems (n : Nat) : DecodeError := .invalidLength n "fewer elements in array"

/-- The value itself, or `none` for `null`. -/
def JsonValue.nonNull (v : JsonValue) : Option JsonValue :=
  match v with
  | .null => none
  | other => some other

namespace ErrorLocation

/-- Reads a location. -/
def ofJson (v : JsonValue) : Decoded ErrorLocation :=
  match v with
  | .object members => do
    let step (acc : Option Nat × Option Nat) (member : String × JsonValue) :
        Decoded (Option Nat × Option Nat) :=
      let (line, column) := acc
      let (k, x) := member
      if k = "line" then do pure (some (← x.asU32), column)
      else if k = "column" then do pure (line, some (← x.asU32))
      else pure (line, column)
    let (line, column) ← members.foldlM step (none, none)
    let some line := line | throw (.missingField "line")
    let some column := column | throw (.missingField "column")
    pure { line, column }
  | .array items => do
    let expected := "struct ErrorLocation with 2 elements"
    let some first := items[0]? | throw (.invalidLength 0 expected)
    let line ← first.asU32
    let some second := items[1]? | throw (.invalidLength 1 expected)
    let column ← second.asU32
    if 2 < items.length then throw (tooManyItems items.length)
    pure { line, column }
  | other => .error (.invalidType other.unexpected "struct ErrorLocation")

/-- Writes a location. -/
def toJson (l : ErrorLocation) : JsonValue :=
  .object [("column", .nat l.column), ("line", .nat l.line)]

end ErrorLocation

namespace PathSegment

/-- Reads a path segment: a string or a 64-bit signed integer. -/
def ofJson (v : JsonValue) : Decoded PathSegment :=
  match v with
  | .string s => .ok (key s)
  | .number (.integer n) =>
    if -Int.pow 2 63 ≤ n ∧ n < Int.pow 2 63 then .ok (index n) else .error (.noMatchingVariant "PathSegment")
  | _ => .error (.noMatchingVariant "PathSegment")

/-- Writes a path segment. -/
def toJson : PathSegment → JsonValue
  | key s => .string s
  | index n => .number (.integer n)

end PathSegment

namespace ResponseError

/-- Reads an error entry. -/
def ofJson (v : JsonValue) : Decoded ResponseError :=
  match v with
  | .object members => do
    let step (acc : Option String × Option (List ErrorLocation) × Option (List PathSegment) ×
        Option JsonValue) (member : String × JsonValue) :
        Decoded (Option String × Option (List ErrorLocation) × Option (List PathSegment) ×
          Option JsonValue) :=
      let (message, locations, path, extensions) := acc
      let (k, x) := member
      if k = "message" then do pure (some (← x.asString), locations, path, extensions)
      else if k = "locations" then do
        pure (message, some (← x.asListOf ErrorLocation.ofJson), path, extensions)
      else if k = "path" then do
        pure (message, locations, some (← x.asListOf PathSegment.ofJson), extensions)
      else if k = "extensions" then pure (message, locations, path, x.nonNull)
      else pure (message, locations, path, extensions)
    let (message, locations, path, extensions) ← members.foldlM step (none, none, none, none)
    let some message := message | throw (.missingField "message")
    pure { message, locations := locations.getD [], path := path.getD [], extensions }
  | .array items => do
    let some first := items[0]? | throw (.invalidLength 0 "struct GraphQLResponseError with 4 elements")
    let message ← first.asString
    let locations ← match items[1]? with
      | some x => x.asListOf ErrorLocation.ofJson
      | none => pure []
    let path ← match items[2]? with
      | some x => x.asListOf PathSegment.ofJson
      | none => pure []
    let extensions := items[3]?.bind JsonValue.nonNull
    if 4 < items.length then throw (tooManyItems items.length)
    pure { message, locations, path, extensions }
  | other => .error (.invalidType other.unexpected "struct GraphQLResponseError")

/-- Writes an error entry; absent extensions are left out. -/
def toJson (e : ResponseError) : JsonValue :=
  .ofMembers ([("message", .string e.message), ("locations", .array (e.locations.map ErrorLocation.toJson)),
    ("path", .array (e.path.map PathSegment.toJson))] ++
    (match e.extensions with
     | some x => [("extensions", x)]
     | none => []))

end ResponseError

namespace Response

/-- Reads a response. -/
def ofJson (v : JsonValue) : Decoded Response :=
  match v with
  | .object members => do
    let step (acc : Option JsonValue × Option (List ResponseError)) (member : String × JsonValue) :
        Decoded (Option JsonValue × Option (List ResponseError)) :=
      let (data, errors) := acc
      let (k, x) := member
      if k = "data" then pure (x.nonNull, errors)
      else if k = "errors" then do pure (data, some (← x.asListOf ResponseError.ofJson))
      else pure (data, errors)
    let (data, errors) ← members.foldlM step (none, none)
    pure { data, errors := errors.getD [] }
  | .array items => do
    let data := items[0]?.bind JsonValue.nonNull
    let errors ← match items[1]? with
      | some x => x.asListOf ResponseError.ofJson
      | none => pure []
    if 2 < items.length then throw (tooManyItems items.length)
    pure { data, errors }
  | other => .error (.invalidType other.unexpected "struct GraphQLResponse")

/-- Whether no error was reported. -/
def isOk (r : Response) : Bool := r.errors.isEmpty

/-- Writes a response; absent data is written as `null`. -/
def toJson (r : Response) : JsonValue :=
  .object [("data", r.data.getD .null), ("errors", .array (r.errors.map ResponseError.toJson))]

end Response
end ModelSync
