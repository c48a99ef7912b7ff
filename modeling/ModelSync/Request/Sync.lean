import ModelSync.Request.Selection
import ModelSync.Filter
/-!
Sync queries: the query `Sync<Plural>` over the root field `sync<Plural>`,
selecting a page of records (`items`), the token of the next page and the
time the sync started. Optional variables carry the time of the last sync,
the page size and the filter; a lone leaf is sent inside an `and` group, other
predicates as they are, and match-all sends no filter.

The schema is checked before the predicate.
-/
namespace ModelSync.ModelSchema

/-- The predicate sent as a sync filter: a lone leaf wrapped in an `and` group. -/
def syncFilterPredicate (p : Predicate) : Predicate :=
  match p with
  | .leaf .. => .group .and [p]
  | other => other

/-- The sync query of this schema. -/
def syncRequest (s : ModelSchema) (lastSync : Option Nat) (limit : Option Nat) (p : Predicate) :
    Except BuildError Request := do
  let items ← s.recordSelection
  let filter ← (syncFilterPredicate p).compile
  let plural := s.plural
  let base : Request :=
    { operationType := .query, operationName := "Sync" ++ plural, field := "sync" ++ plural,
      modelName := s.name,
      selection := [.node "items" items, .leaf "nextToken", .leaf "startedAt"] }
  let withSync := match lastSync with
    | some t => base.withVariable "lastSync" "AWSTimestamp" (.nat t)
    | none => base
  let withLimit := match limit with
    | some n => withSync.withVariable "limit" "Int" (.nat n)
    | none => withSync
  pure (match filter with
    | some f => withLimit.withVariable "filter" ("Model" ++ s.name ++ "FilterInput") f
    | none => withLimit)

end ModelSync.ModelSchema
