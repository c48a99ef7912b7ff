import ModelSync.Proofs.Dictionary
import ModelSync.Proofs.Request.RecordSelection
import ModelSync.Proofs.Predicate.Compile
/-!
Sync queries.

A sync query is built in three steps, each of which may fail: the schema is
validated (its record selection taken), then the predicate is compiled, then
the query is put together. The predicate sent is a lone leaf wrapped in an
`and` group, and any other predicate as it is: a `not` group is not wrapped,
and match-all sends no filter.

The query itself is `ModelSchema.syncQuery`: its variables' types and values
are each given as one list, rather than bound one at a time. Main statement: `ModelSchema.syncRequest_spec`. A filter that is
sent is always an object with a single key among `and`, `or` and `not`.
-/
namespace ModelSync.ModelSchema

/-- The sync query of a schema whose records select `items`: the query
`Sync<Plural>` over `sync<Plural>`, selecting the page of records, the next
page's token and the time the sync started, with the filter, the time of the
last sync and the page size as variables when given. -/
def syncQuery (s : ModelSchema) (items : List Selection) (lastSync limit : Option Nat)
    (filter : Option JsonValue) : Request where
  operationType := .query
  operationName := "Sync" ++ s.plural
  field := "sync" ++ s.plural
  modelName := s.name
  selection := [.node "items" items, .leaf "nextToken", .leaf "startedAt"]
  types := .ofList ((filter.map fun _ => ("filter", "Model" ++ s.name ++ "FilterInput")).toList ++
    (lastSync.map fun _ => ("lastSync", "AWSTimestamp")).toList ++ (limit.map fun _ => ("limit", "Int")).toList)
  values := .ofList ((filter.map fun f => ("filter", f)).toList ++
    (lastSync.map fun t => ("lastSync", .nat t)).toList ++ (limit.map fun n => ("limit", .nat n)).toList)

variable {s : ModelSchema}

/-- A schema that fails validation fails every sync query with that error. -/
theorem syncRequest_of_validate_error {e : BuildError} (failed : s.validate = .error e)
    (lastSync limit : Option Nat) (p : Predicate) : s.syncRequest lastSync limit p = .error e := by
  simp [syncRequest, recordSelection, failed, bind, Except.bind]

/-- Binding the optional variables one at a time gives the query's variables. -/
theorem syncRequest_of_recordSelection {items : List Selection} (selected : s.recordSelection = .ok items)
    (lastSync limit : Option Nat) (p : Predicate) :
    s.syncRequest lastSync limit p = (syncFilterPredicate p).compile.map (s.syncQuery items lastSync limit) := by
  -- `filter` sorts before `lastSync`, which sorts before `limit`
  have ascending : ("filter" : String) < "lastSync" ∧ ("filter" : String) < "limit" ∧
      ("lastSync" : String) < "limit" := by decide
  have notBelow : ¬ ("limit" : String) < "lastSync" ∧ ¬ ("limit" : String) < "filter" ∧
      ¬ ("lastSync" : String) < "filter" := by decide
  have distinct : ("limit" : String) ≠ "lastSync" ∧ ("filter" : String) ≠ "lastSync" ∧
      ("filter" : String) ≠ "limit" ∧ ("lastSync" : String) ≠ "filter" ∧ ("limit" : String) ≠ "filter" := by
    decide
  unfold syncRequest
  rw [selected]
  cases (syncFilterPredicate p).compile with
  | error e => rfl
  | ok filter =>
    cases lastSync <;> cases limit <;> cases filter <;>
      simp [syncQuery, Request.withVariable, Dictionary.ofList, Dictionary.insert, Dictionary.insertEntry,
        Dictionary.empty, ascending, notBelow, distinct, bind, Except.bind, pure, Except.pure, Except.map]

/-- The filter bound in a sync query is the one it was given. -/
theorem valueOf?_filter_syncQuery (items : List Selection) (lastSync limit : Option Nat)
    (filter : Option JsonValue) : (s.syncQuery items lastSync limit filter).valueOf? "filter" = filter := by
  cases lastSync <;> cases limit <;> cases filter <;>
    simp [syncQuery, Request.valueOf?, Dictionary.ofList]

/-- A group compiles to an object whose single key is the group's kind. -/
theorem compileNode_group_eq_ok {kind : GroupKind} {children : List Predicate} {f : JsonValue}
    (compiled : Predicate.compileNode (.group kind children) = .ok f) :
    ∃ value, f = .object [(kind.name, value)] := by
  cases kind with
  | not =>
    -- only a `not` of one child compiles
    cases children with
    | nil => simp [Predicate.compileNode] at compiled
    | cons child rest =>
      cases rest with
      | cons _ _ => simp [Predicate.compileNode] at compiled
      | nil =>
        simp only [Predicate.compileNode] at compiled
        cases inner : Predicate.compileNode child with
        | error e => simp [inner, Except.map] at compiled
        | ok c =>
          simp only [inner, Except.map, Except.ok.injEq] at compiled
          exact ⟨c, compiled.symm⟩
  | and | or =>
    simp only [Predicate.compileNode] at compiled
    cases inner : Predicate.compileChildren children with
    | error e => simp [inner, Except.map] at compiled
    | ok cs =>
      simp only [inner, Except.map, Except.ok.injEq] at compiled
      exact ⟨.array cs, compiled.symm⟩

/-- A filter a sync query sends is an object with a single key among `and`,
`or` and `not`: a lone leaf is sent inside an `and` group. -/
theorem sentFilter_shape {p : Predicate} {f : JsonValue}
    (compiled : (syncFilterPredicate p).compile = .ok (some f)) :
    ∃ key value, f = .object [(key, value)] ∧ (key = "and" ∨ key = "or" ∨ key = "not") := by
  have group : ∃ kind children, syncFilterPredicate p = .group kind children := by
    cases p with
    | all => simp [syncFilterPredicate, Predicate.compile] at compiled
    | leaf field comparison => exact ⟨.and, _, rfl⟩
    | group kind children => exact ⟨kind, children, rfl⟩
  obtain ⟨kind, children, sent⟩ := group
  rw [sent] at compiled
  cases node : Predicate.compileNode (.group kind children) with
  | error e => simp [Predicate.compile, node, Except.map] at compiled
  | ok g =>
    simp only [Predicate.compile, node, Except.map, Except.ok.injEq, Option.some.injEq] at compiled
    obtain ⟨value, rfl⟩ := compileNode_group_eq_ok node
    refine ⟨kind.name, value, compiled.symm, ?_⟩
    cases kind <;> simp [GroupKind.name]

/-- The sync query of a schema. A schema that fails validation fails it with
that error. Otherwise the query selects the schema's record selection, and
its filter is compiled from the predicate: a lone leaf inside an `and` group,
a group (a `not` group too) as it is, match-all to no filter; a predicate that
does not compile fails the query with its error, and otherwise the query is
`Sync<Plural>` over `sync<Plural>` with exactly the given variables among
`filter`, `lastSync` and `limit`. A filter the query sends has a single key
among `and`, `or` and `not`. -/
theorem syncRequest_spec (s : ModelSchema) (lastSync limit : Option Nat) (p : Predicate) :
    (∀ e, s.validate = .error e → s.syncRequest lastSync limit p = .error e) ∧
    (s.validate = .ok () → ∃ items, s.recordSelection = .ok items ∧
      (p = .all → s.syncRequest lastSync limit p = .ok (s.syncQuery items lastSync limit none)) ∧
      (∀ field comparison, p = .leaf field comparison →
        s.syncRequest lastSync limit p = (Predicate.groupOf .and [p]).compile.map (s.syncQuery items lastSync limit)) ∧
      (∀ kind children, p = .group kind children →
        s.syncRequest lastSync limit p = p.compile.map (s.syncQuery items lastSync limit))) ∧
    (∀ r, s.syncRequest lastSync limit p = .ok r → ∀ f, r.valueOf? "filter" = some f →
      ∃ key value, f = .object [(key, value)] ∧ (key = "and" ∨ key = "or" ∨ key = "not")) := by
  refine ⟨fun e failed => syncRequest_of_validate_error failed lastSync limit p, fun valid => ?_,
    fun r built f sent => ?_⟩
  · obtain ⟨entries, -, selected⟩ := recordSelection_eq_sortByName valid
    have built := syncRequest_of_recordSelection selected lastSync limit p
    refine ⟨_, selected, fun all => ?_, fun field comparison leaf => ?_, fun kind children group => ?_⟩
    · subst all
      rw [built]
      rfl
    · subst leaf
      rw [built]
      rfl
    · subst group
      rw [built]
      rfl
  · -- a query is built only after the schema's selection and the predicate's filter
    cases selection : s.recordSelection with
    | error e => simp [syncRequest, selection, bind, Except.bind] at built
    | ok items =>
      rw [syncRequest_of_recordSelection selection] at built
      cases compiled : (syncFilterPredicate p).compile with
      | error e => simp [compiled, Except.map] at built
      | ok filter =>
        simp only [compiled, Except.map, Except.ok.injEq] at built
        subst built
        rw [valueOf?_filter_syncQuery] at sent
        subst sent
        exact sentFilter_shape compiled

end ModelSync.ModelSchema
