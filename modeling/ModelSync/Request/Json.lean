import ModelSync.Request.Basic
/-!
The JSON view of a request: its operation type, name, root field and model,
its variables and their types as objects keyed by name, and its document
text. The selection tree and single variables can be viewed as well, and so
can the payload a request is sent as: its document and its variables' values.
-/
namespace ModelSync

mutual

/-- A selection as `{"name", "children"}`. -/
def Selection.toJson : Selection → JsonValue
  | .node n cs => .ofMembers [("name", .string n), ("children", .array (Selection.listToJson cs))]

/-- Selections in order. -/
def Selection.listToJson : List Selection → List JsonValue
  | [] => []
  | s :: rest => s.toJson :: Selection.listToJson rest

end

namespace Request

/-- The request as `{operation_type, operation_name, field, model_name,
variables, variable_types, content}`. -/
def toJson (r : Request) : JsonValue :=
  .ofMembers [("operation_type", .string r.operationType.name),
    ("operation_name", .string r.operationName), ("field", .string r.field),
    ("model_name", .string r.modelName), ("variables", .object r.variableValues),
    ("variable_types", .object (r.variableTypes.map fun (n, t) => (n, .string t))),
    ("content", .string r.content)]

/-- The payload sent over the wire: the document text as `query` and the
variables' values as `variables`. Serializing a request gives the same object. -/
def wire (r : Request) : JsonValue :=
  .ofMembers [("query", .string r.content), ("variables", .object r.variableValues)]

/-- The selection tree as a JSON array. -/
def selectionJson (r : Request) : JsonValue := .array (Selection.listToJson r.selection)

/-- For each name, the value and type bound to it, `null` where unbound. -/
def lookupJson (r : Request) (names : List String) : JsonValue :=
  .ofMembers (names.map fun n =>
    (n, .ofMembers [("value", (r.valueOf? n).getD .null),
      ("type", JsonValue.ofOption (r.typeOf? n))]))

end Request
end ModelSync
