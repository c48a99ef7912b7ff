import ModelSync.Dictionary
import ModelSync.Json.Value
/-!
GraphQL requests: an operation of some type and name over one root field,
with a selection tree and variables. The variables are two dictionaries, the
types the document declares and the values the payload sends; binding a
variable writes both, and binding a name again replaces both.

The document text declares the variables and passes them to the root field,
both in ascending name order, and writes the selection indented two spaces
per level. A selection with no children is written as a bare name.
-/
namespace ModelSync

/-- The kind of a GraphQL operation. -/
inductive OperationType where
  | query
  | mutation
  | subscription
  deriving DecidableEq, Repr, Inhabited

/-- The keyword of an operation type. -/
def OperationType.name : OperationType → String
  | .query => "query"
  | .mutation => "mutation"
  | .subscription => "subscription"

/-- The operation types by keyword. -/
def OperationType.names : List (String × OperationType) :=
  [("query", .query), ("mutation", .mutation), ("subscription", .subscription)]

/-- A selected field with the fields selected below it. -/
inductive Selection where
  | node (name : String) (children : List Selection)
  deriving Inhabited, Repr

namespace Selection

/-- A field with nothing selected below it. -/
def leaf (name : String) : Selection := node name []

/-- The selected field's name. -/
def name : Selection → String
  | node n _ => n

/-- The fields selected below. -/
def children : Selection → List Selection
  | node _ cs => cs

/-- Two spaces per level. -/
def indent (depth : Nat) : String := String.ofList (List.replicate (2 * depth) ' ')

mutual

/-- The lines of a selection at the given depth. -/
def render (depth : Nat) : Selection → String
  | node n [] => indent depth ++ n ++ "\n"
  | node n (c :: cs) =>
    indent depth ++ n ++ " \x7b\n" ++ renderAll (depth + 1) (c :: cs) ++ indent depth ++ "\x7d\n"

/-- The lines of several selections at one depth. -/
def renderAll (depth : Nat) : List Selection → String
  | [] => ""
  | s :: rest => render depth s ++ renderAll depth rest

end

end Selection

/-- A GraphQL request. -/
structure Request where
  operationType : OperationType
  operationName : String
  field : String
  modelName : String
  selection : List Selection
  /-- The GraphQL type declared for each variable. -/
  types : Dictionary String := Dictionary.empty
  /-- The value sent for each variable. -/
  values : Dictionary JsonValue := Dictionary.empty
  deriving Inhabited

namespace Request

/-- The request with `name` declared with this type and sent with this value. -/
def withVariable (r : Request) (name type : String) (value : JsonValue) : Request :=
  { r with types := r.types.insert name type, values := r.values.insert name value }

/-- The request asking for the page after `token`. -/
def nextPage (r : Request) (token : String) : Request :=
  r.withVariable "nextToken" "String" (.string token)

/-- The value sent for a variable. -/
def valueOf? (r : Request) (name : String) : Option JsonValue := r.values.get? name

/-- The type declared for a variable. -/
def typeOf? (r : Request) (name : String) : Option String := r.types.get? name

/-- The declared variable names, ascending. -/
def variableNames (r : Request) : List String := r.types.keys

/-- The variables sent and their values, by name. -/
def variableValues (r : Request) : List (String × JsonValue) := r.values.entries

/-- The variables declared and their types, by name. -/
def variableTypes (r : Request) : List (String × String) := r.types.entries

/-- The variable declarations `($a: T, $b: U)`, empty without variables. -/
def declarations (r : Request) : String :=
  if r.types.isEmpty then ""
  else "(" ++ ", ".intercalate (r.variableTypes.map fun (n, t) => "$" ++ n ++ ": " ++ t) ++ ")"

/-- The root field's arguments `(a: $a, b: $b)`, empty without variables. -/
def arguments (r : Request) : String :=
  if r.types.isEmpty then ""
  else "(" ++ ", ".intercalate (r.variableNames.map fun n => n ++ ": $" ++ n) ++ ")"

/-- The document text of the request. -/
def content (r : Request) : String :=
  r.operationType.name ++ " " ++ r.operationName ++ r.declarations ++ " \x7b\n" ++
    "  " ++ r.field ++ r.arguments ++ " \x7b\n" ++
    Selection.renderAll 2 r.selection ++
    "  \x7d\n" ++ "\x7d\n"

end Request
end ModelSync
