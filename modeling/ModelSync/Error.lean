/-!
Why a document could not be built: a predicate that cannot be compiled, a
schema that cannot be introspected, or a record field that cannot be read.
Each carries its reason in words; `BuildError.message` gives the full text.
-/
namespace ModelSync

/-- A failure to build a document from a schema, a record or a predicate. -/
inductive BuildError where
  /-- The predicate has no filter form. -/
  | invalidPredicate (reason : String)
  /-- The schema cannot be turned into documents. -/
  | schemaIntrospection (model : String) (reason : String)
  /-- A record's field does not have the shape the schema asks for. -/
  | fieldAccess (model : String) (field : String) (reason : String)
  deriving DecidableEq, Repr

namespace BuildError

/-- The full text of the error. -/
def message : BuildError → String
  | invalidPredicate reason => "invalid predicate: " ++ reason
  | schemaIntrospection model reason =>
    "schema introspection failed for '" ++ model ++ "': " ++ reason
  | fieldAccess model field reason =>
    "cannot read field '" ++ field ++ "' of model '" ++ model ++ "': " ++ reason

/-- The name of the error's kind. -/
def kind : BuildError → String
  | invalidPredicate _ => "InvalidPredicate"
  | schemaIntrospection _ _ => "SchemaIntrospection"
  | fieldAccess _ _ _ => "ModelFieldAccess"

end BuildError
end ModelSync
