import ModelSync.Proofs.Dictionary
import ModelSync.Proofs.Text.ByteOrder
import ModelSync.Proofs.Schema.Selection
import ModelSync.Request.Json
import ModelSync.Request.Mutation
import ModelSync.Request.Subscription
import ModelSync.Request.Sync
import ModelSync.Auth.Decorate
/-!
The variables of a request.

A request keeps its variables in two dictionaries, the types its document
declares and the values its payload sends. It starts with neither, and a
caller binds variables one at a time (`Request.Reachable`), each binding
writing both; every builder's request, a later page of it and every request
the owner decorator gives out is of that kind. Where a binding puts a name
depends on the names already there alone (`Dictionary.keys_insert_congr`), so
the two dictionaries keep one and the same names
(`Request.Reachable.keys_values`). Those names ascend, as strings and as
UTF-8 bytes, so the declared types, the values sent and the root field's
arguments list the same names in the same order, each declared with the type
bound to it and sent with the value bound to it.

Binding a name sets its type and value and leaves every other binding as it
was; binding two different names gives the same request in either order;
binding a name again keeps only the last type and value. Main statement:
`Request.variables_of_reachable`.
-/
namespace ModelSync.Request

/-- A request as callers hold it: built with no variables, then given
variables one at a time. -/
inductive Reachable : Request → Prop
  | new (operationType : OperationType) (operationName field modelName : String)
      (selection : List Selection) :
      Reachable { operationType, operationName, field, modelName, selection }
  | withVariable {r : Request} (name type : String) (value : JsonValue) :
      Reachable r → Reachable (r.withVariable name type value)

/-- The items in parentheses, separated by commas; nothing for no items. -/
def parenthesized (items : List String) : String :=
  if items.isEmpty then "" else "(" ++ ", ".intercalate items ++ ")"

variable {r : Request}

@[simp] theorem types_withVariable (name type : String) (value : JsonValue) :
    (r.withVariable name type value).types = r.types.insert name type := rfl

@[simp] theorem values_withVariable (name type : String) (value : JsonValue) :
    (r.withVariable name type value).values = r.values.insert name value := rfl

theorem Reachable.nextPage (reachable : r.Reachable) (token : String) : (r.nextPage token).Reachable :=
  reachable.withVariable _ _ _

/-- The values of a reachable request are sent under the declared names. -/
theorem Reachable.keys_values (reachable : r.Reachable) : r.values.keys = r.types.keys := by
  induction reachable with
  | new => rfl
  | withVariable name type value _ same => exact Dictionary.keys_insert_congr same name value type

/-- The declared names ascend in UTF-8 byte order too. -/
theorem names_ascend_utf8 : (r.variableNames.map fun n => n.toUTF8.data.toList).Pairwise (· < ·) :=
  Text.ascending_toUTF8 r.types.sorted

@[simp] theorem typeOf?_withVariable (name type : String) (value : JsonValue) (other : String) :
    (r.withVariable name type value).typeOf? other = if other = name then some type else r.typeOf? other :=
  Dictionary.get?_insert _ _ _ _

@[simp] theorem valueOf?_withVariable (name type : String) (value : JsonValue) (other : String) :
    (r.withVariable name type value).valueOf? other =
      if other = name then some value else r.valueOf? other :=
  Dictionary.get?_insert _ _ _ _

theorem withVariable_withVariable_self (name : String) (type type' : String) (value value' : JsonValue) :
    (r.withVariable name type value).withVariable name type' value' = r.withVariable name type' value' := by
  simp [withVariable]

theorem withVariable_comm {name name' : String} (differ : name ≠ name') (type type' : String)
    (value value' : JsonValue) :
    (r.withVariable name type value).withVariable name' type' value' =
      (r.withVariable name' type' value').withVariable name type value := by
  simp only [withVariable, Dictionary.insert_comm (Ne.symm differ)]

theorem mem_variableTypes (name type : String) : (name, type) ∈ r.variableTypes ↔ r.typeOf? name = some type :=
  Dictionary.mem_entries_iff_get?

theorem mem_variableValues (name : String) (value : JsonValue) :
    (name, value) ∈ r.variableValues ↔ r.valueOf? name = some value :=
  Dictionary.mem_entries_iff_get?

theorem declarations_eq : r.declarations =
    parenthesized (r.variableTypes.map fun (n, t) => "$" ++ n ++ ": " ++ t) := by
  cases entries : r.types.entries with
  | nil => simp [declarations, parenthesized, Dictionary.isEmpty, variableTypes, entries]
  | cons head rest => simp [declarations, parenthesized, Dictionary.isEmpty, variableTypes, entries]

theorem arguments_eq : r.arguments = parenthesized (r.variableNames.map fun n => n ++ ": $" ++ n) := by
  cases entries : r.types.entries with
  | nil => simp [arguments, parenthesized, Dictionary.isEmpty, variableNames, Dictionary.keys, entries]
  | cons head rest =>
    simp [arguments, parenthesized, Dictionary.isEmpty, variableNames, Dictionary.keys, entries]

theorem wire_members : r.wire =
    .object [("query", .string r.content), ("variables", .object r.variableValues)] := by
  have differ : ("variables" : String) ≠ "query" := by decide
  have after : ¬ ("variables" : String) < "query" := by decide
  simp only [wire, JsonValue.ofMembers, List.foldl_cons, List.foldl_nil, JsonValue.insertMember,
    Dictionary.insertEntry, if_neg differ, if_neg after]

/-- The document text, with its declarations and the root field's arguments
spelled out. -/
theorem content_eq : r.content =
    r.operationType.name ++ " " ++ r.operationName ++
      parenthesized (r.variableTypes.map fun (n, t) => "$" ++ n ++ ": " ++ t) ++ " \x7b\n" ++
    "  " ++ r.field ++ parenthesized (r.variableNames.map fun n => n ++ ": $" ++ n) ++ " \x7b\n" ++
    Selection.renderAll 2 r.selection ++ "  \x7d\n" ++ "\x7d\n" := by
  rw [content, declarations_eq, arguments_eq]

/-- A request with a variable bound when it is given stays reachable. -/
theorem Reachable.withOptional (reachable : r.Reachable) (name type : String) (value : Option JsonValue) :
    (match value with
      | some v => r.withVariable name type v
      | none => r).Reachable := by
  cases value with
  | none => exact reachable
  | some v => exact reachable.withVariable name type v

end ModelSync.Request

/-! ## Requests the library builds and decorates -/

namespace ModelSync

open Request

theorem ModelSchema.reachable_of_syncRequest {s : ModelSchema} {lastSync limit : Option Nat}
    {p : Predicate} {r : Request} (built : s.syncRequest lastSync limit p = .ok r) : r.Reachable := by
  unfold ModelSchema.syncRequest at built
  obtain ⟨items, -, built⟩ := Except.bind_eq_ok built
  obtain ⟨filter, -, built⟩ := Except.bind_eq_ok built
  cases built
  have base := Reachable.new .query ("Sync" ++ s.plural) ("sync" ++ s.plural) s.name
    [.node "items" items, .leaf "nextToken", .leaf "startedAt"]
  have withSync := base.withOptional "lastSync" "AWSTimestamp" (lastSync.map JsonValue.nat)
  have withLimit := withSync.withOptional "limit" "Int" (limit.map JsonValue.nat)
  have withFilter := withLimit.withOptional "filter" ("Model" ++ s.name ++ "FilterInput") filter
  cases lastSync <;> cases limit <;> exact withFilter

theorem ModelSchema.reachable_of_mutationRequest {s : ModelSchema} {kind : MutationKind}
    {input : Dictionary JsonValue} {condition : Option JsonValue} {r : Request}
    (built : s.mutationRequest kind input condition = .ok r) : r.Reachable := by
  unfold ModelSchema.mutationRequest at built
  obtain ⟨selection, -, built⟩ := Except.bind_eq_ok built
  cases built
  have base := Reachable.new .mutation (kind.verb ++ s.name) (kind.lowerVerb ++ s.name) s.name selection
  have withInput := base.withVariable "input" (kind.verb ++ s.name ++ "Input!") (.object input.entries)
  exact withInput.withOptional "condition" ("Model" ++ s.name ++ "ConditionInput") condition

theorem ModelSchema.reachable_of_createRequest {s : ModelSchema} {record : ModelRecord} {r : Request}
    (built : s.createRequest record = .ok r) : r.Reachable := by
  obtain ⟨_, -, built⟩ := Except.bind_eq_ok built
  exact reachable_of_mutationRequest built

theorem ModelSchema.reachable_of_updateRequest {s : ModelSchema} {record : ModelRecord} {version : Nat}
    {p : Predicate} {r : Request} (built : s.updateRequest record version p = .ok r) : r.Reachable := by
  obtain ⟨_, -, built⟩ := Except.bind_eq_ok built
  obtain ⟨_, -, built⟩ := Except.bind_eq_ok built
  exact reachable_of_mutationRequest built

theorem ModelSchema.reachable_of_deleteRequest {s : ModelSchema} {id : String} {version : Nat}
    {p : Predicate} {r : Request} (built : s.deleteRequest id version p = .ok r) : r.Reachable := by
  obtain ⟨_, -, built⟩ := Except.bind_eq_ok built
  exact reachable_of_mutationRequest built

theorem ModelSchema.reachable_of_subscriptionRequest {s : ModelSchema} {kind : ChangeKind} {r : Request}
    (built : s.subscriptionRequest kind = .ok r) : r.Reachable := by
  unfold ModelSchema.subscriptionRequest at built
  obtain ⟨selection, -, built⟩ := Except.bind_eq_ok built
  cases built
  exact Reachable.new .subscription ("On" ++ kind.verb ++ s.name) ("on" ++ kind.verb ++ s.name) s.name
    selection

/-- Binding each owner rule's owner field, in order, keeps whatever binding
one owner field keeps. -/
theorem Decorator.preserved_of_bindOwners {claims : ClaimSource} {t : AuthType} {P : Request → Prop}
    (step : ∀ r name owner, P r → P (r.withVariable name "String!" (.string owner))) :
    ∀ {rules : List AuthRule} {r r' : Request}, P r →
      rules.foldlM (fun r rule => do
        let owner ← Decorator.ownerValue claims t rule
        pure (r.withVariable rule.ownerField "String!" (.string owner))) r = .ok r' →
      P r'
  | [], _, _, holds, bound => by
    cases bound
    exact holds
  | rule :: rules, r, r', holds, bound => by
    simp only [List.foldlM_cons] at bound
    obtain ⟨next, first, rest⟩ := Except.bind_eq_ok bound
    obtain ⟨owner, -, first⟩ := Except.bind_eq_ok first
    cases first
    exact preserved_of_bindOwners step (step _ _ _ holds) rest

/-- The owner decorator only binds owner fields, with type `String!`, so it
keeps whatever binding one owner field keeps. -/
theorem Decorator.preserved_of_decorate {schema : ModelSchema} {claims : ClaimSource} {r r' : Request}
    {t : AuthType} {P : Request → Prop}
    (step : ∀ r name owner, P r → P (r.withVariable name "String!" (.string owner))) (holds : P r)
    (decorated : (Decorator.ownerClaims schema claims).decorate r t = .ok r') : P r' := by
  simp only [Decorator.decorate] at decorated
  -- requests left alone, then the caller's groups, then the owner fields
  split at decorated
  · cases decorated
    exact holds
  · obtain ⟨inGroup, -, decorated⟩ := Except.bind_eq_ok decorated
    cases inGroup
    · exact preserved_of_bindOwners step holds decorated
    · cases decorated
      exact holds

namespace Request

/-- The variables of every request a caller can hold. Every request the
builders give, a later page of a request and a request the owner decorator
gives out is reachable. A reachable request sends its values under exactly
the names it declares, which ascend as strings and as UTF-8 bytes; each name
is declared with the type bound to it and sent with the value bound to it;
the document declares them in that order and passes each to the root field
under its own name; the payload sends exactly their values. Binding a name
sets its type and value and no other; binding two different names gives the
same request in either order; binding a name again keeps the last type and
value. -/
theorem variables_of_reachable :
    ((∀ (s : ModelSchema) lastSync limit p r, s.syncRequest lastSync limit p = .ok r → r.Reachable) ∧
      (∀ (s : ModelSchema) record r, s.createRequest record = .ok r → r.Reachable) ∧
      (∀ (s : ModelSchema) record version p r, s.updateRequest record version p = .ok r → r.Reachable) ∧
      (∀ (s : ModelSchema) id version p r, s.deleteRequest id version p = .ok r → r.Reachable) ∧
      (∀ (s : ModelSchema) kind r, s.subscriptionRequest kind = .ok r → r.Reachable) ∧
      (∀ r : Request, r.Reachable → ∀ token, (r.nextPage token).Reachable) ∧
      (∀ schema claims t (r r' : Request), r.Reachable →
        (Decorator.ownerClaims schema claims).decorate r t = .ok r' → r'.Reachable)) ∧
    (∀ r : Request, r.Reachable →
      r.variableValues.map Prod.fst = r.variableNames ∧
      r.variableTypes.map Prod.fst = r.variableNames ∧
      r.variableNames.Pairwise (· < ·) ∧
      (r.variableNames.map fun n => n.toUTF8.data.toList).Pairwise (· < ·) ∧
      (∀ n t, (n, t) ∈ r.variableTypes ↔ r.typeOf? n = some t) ∧
      (∀ n v, (n, v) ∈ r.variableValues ↔ r.valueOf? n = some v) ∧
      r.content = r.operationType.name ++ " " ++ r.operationName ++
        parenthesized (r.variableTypes.map fun (n, t) => "$" ++ n ++ ": " ++ t) ++ " \x7b\n" ++
        "  " ++ r.field ++ parenthesized (r.variableNames.map fun n => n ++ ": $" ++ n) ++ " \x7b\n" ++
        Selection.renderAll 2 r.selection ++ "  \x7d\n" ++ "\x7d\n" ∧
      r.wire = .object [("query", .string r.content), ("variables", .object r.variableValues)]) ∧
    (∀ (r : Request) n t v m, (r.withVariable n t v).typeOf? m = if m = n then some t else r.typeOf? m) ∧
    (∀ (r : Request) n t v m, (r.withVariable n t v).valueOf? m = if m = n then some v else r.valueOf? m) ∧
    (∀ (r : Request) n n' t t' v v', n ≠ n' →
      (r.withVariable n t v).withVariable n' t' v' = (r.withVariable n' t' v').withVariable n t v) ∧
    (∀ (r : Request) n t t' v v', (r.withVariable n t v).withVariable n t' v' = r.withVariable n t' v') := by
  refine ⟨⟨fun _ _ _ _ _ => ModelSchema.reachable_of_syncRequest,
      fun _ _ _ => ModelSchema.reachable_of_createRequest,
      fun _ _ _ _ _ => ModelSchema.reachable_of_updateRequest,
      fun _ _ _ _ _ => ModelSchema.reachable_of_deleteRequest,
      fun _ _ _ => ModelSchema.reachable_of_subscriptionRequest,
      fun _ reachable token => reachable.nextPage token,
      fun _ _ _ _ _ reachable => Decorator.preserved_of_decorate
        (fun _ _ _ reachable => reachable.withVariable _ _ _) reachable⟩,
    fun r reachable => ⟨reachable.keys_values, rfl, r.types.sorted, names_ascend_utf8,
      mem_variableTypes, mem_variableValues, content_eq, wire_members⟩,
    fun _ => typeOf?_withVariable, fun _ => valueOf?_withVariable,
    fun _ _ _ _ _ _ _ differ => withVariable_comm differ _ _ _ _,
    fun _ => withVariable_withVariable_self⟩

/-- A blog subscription for the owner `johndoe`, filtered. -/
def ownerFilterRequest : Request :=
  (({ operationType := .subscription, operationName := "OnCreateBlog", field := "onCreateBlog",
      modelName := "Blog", selection := [.leaf "id"] } : Request).withVariable
    "owner" "String!" (.string "johndoe")).withVariable "filter" "ModelBlogFilterInput" (.object [])

theorem variables_of_reachable_owner_filter :
    ownerFilterRequest.Reachable ∧ ownerFilterRequest.variableValues.map Prod.fst = ["filter", "owner"] ∧
      ownerFilterRequest.arguments = "(filter: $filter, owner: $owner)" := by
  have reachable : ownerFilterRequest.Reachable :=
    ((Reachable.new _ _ _ _ _).withVariable _ _ _).withVariable _ _ _
  have spec := variables_of_reachable.2.1 _ reachable
  refine ⟨reachable, ?_, ?_⟩
  · rw [spec.1]
    decide
  · rw [arguments_eq]
    decide

end Request
end ModelSync
