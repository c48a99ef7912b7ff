import ModelSync.Proofs.Schema.Selection
import ModelSync.Proofs.StableSort
import ModelSync.Proofs.Text.ByteOrder
import ModelSync.Request.Mutation
import Mathlib.Data.String.Basic
/-!
The selection of a record.

A level of fields selects what the unbounded walk `ModelSchema.Selects`
gives: a has-many field nothing, a model reference `name { id }`, a
custom-type field its type's level sorted, any other field a leaf. The walk
is a function of the level (`ModelSchema.Selects.unique`), so two fields of
one custom type select the same subtree, and it lists the level's fields
other than has-many ones in declaration order (`ModelSchema.Selects.names`).

Levels are sorted by `Selection.sortByName`, a stable sort by the UTF-8 bytes
of the names (`Selection.stablySorted_sortByName`): ascending byte order, the
selections of one name in the order given, duplicates kept. That order is
unique (`Selection.StablySorted.unique`), so sorting a sorted list with more
items appended is sorting the whole list at once
(`Selection.sortByName_sortByName_append`). The record selection of a valid
schema is thus its top level with the bookkeeping leaves `_deleted`,
`_lastChangedAt` and `_version` appended, sorted once; every level of it is
sorted, and every builder carries it. Main statement:
`ModelSchema.recordSelection_spec`.
-/
namespace ModelSync

namespace Selection

/-- Byte order of names: `a`'s name is no greater than `b`'s as UTF-8 bytes. -/
def BytesLE (a b : Selection) : Prop := a.name.toUTF8.data.toList ≤ b.name.toUTF8.data.toList

/-- `sorted` holds `items` stably sorted by name: the same selections,
duplicates kept, in ascending byte order of names, and the selections of each
name in the order `items` gives them. -/
structure StablySorted (items sorted : List Selection) : Prop where
  perm : sorted.Perm items
  ascending : sorted.Pairwise BytesLE
  stable : ∀ n, sorted.filter (·.name == n) = items.filter (·.name == n)

/-- Every level of a selection tree is in ascending byte order of names. -/
inductive Ordered : Selection → Prop
  | node {name : String} {children : List Selection} :
      children.Pairwise BytesLE → (∀ c ∈ children, Ordered c) → Ordered (.node name children)

theorem bytesLE_iff {a b : Selection} : BytesLE a b ↔ a.name ≤ b.name :=
  Text.le_iff_toUTF8_le.symm

@[simp] theorem name_node (name : String) (children : List Selection) :
    (Selection.node name children).name = name := rfl

theorem ordered_leaf (name : String) : (leaf name).Ordered :=
  .node List.Pairwise.nil (by simp)

theorem pairwise_sortByName (items : List Selection) :
    (sortByName items).Pairwise fun a b => a.name ≤ b.name :=
  List.pairwise_mergeSort_key Selection.name items

/-- Sorting keeps the selections of each name in the order given. -/
theorem filter_sortByName (items : List Selection) (n : String) :
    (sortByName items).filter (·.name == n) = items.filter (·.name == n) :=
  List.filter_mergeSort_key Selection.name items n

theorem stablySorted_sortByName (items : List Selection) : StablySorted items (sortByName items) where
  perm := List.mergeSort_perm items _
  ascending := (pairwise_sortByName items).imp bytesLE_iff.mpr
  stable := filter_sortByName items

/-- A stably sorted order of given selections is unique. -/
theorem StablySorted.unique {items sorted sorted' : List Selection} (h : StablySorted items sorted)
    (h' : StablySorted items sorted') : sorted = sorted' :=
  List.eq_of_filter_key_eq (h.ascending.imp bytesLE_iff.mp) (h'.ascending.imp bytesLE_iff.mp)
    fun n => (h.stable n).trans (h'.stable n).symm

/-- Sorting a sorted list with more items appended sorts the whole list. -/
theorem sortByName_sortByName_append (first rest : List Selection) :
    sortByName (sortByName first ++ rest) = sortByName (first ++ rest) := by
  refine List.eq_of_filter_key_eq (pairwise_sortByName _) (pairwise_sortByName _) fun n => ?_
  rw [filter_sortByName, filter_sortByName, List.filter_append, List.filter_append, filter_sortByName]

end Selection

namespace ModelSchema

variable {s : ModelSchema}

/-- A level of fields has at most one selection. -/
theorem Selects.unique {fields : List ModelField} {entries entries' : List Selection}
    (selects : s.Selects fields entries) (selects' : s.Selects fields entries') : entries = entries' := by
  induction selects generalizing entries' with
  | nil => cases selects'; rfl
  | hasMany many _ ih =>
    cases selects' with
    | hasMany _ rest' => exact ih rest'
    | customType many' => rw [many] at many'; cases many'
    | model many' => rw [many] at many'; cases many'
    | scalar many' => rw [many] at many'; cases many'
  | customType many type stored _ _ ihInner ihRest =>
    cases selects' with
    | hasMany many' => rw [many] at many'; cases many'
    | customType _ type' stored' inner' rest' =>
      cases type.symm.trans type'
      cases stored.symm.trans stored'
      rw [ihInner inner', ihRest rest']
    | model _ type' => rw [type] at type'; cases type'
    | scalar _ notCustom => exact absurd type (notCustom _)
  | model many type _ ih =>
    cases selects' with
    | hasMany many' => rw [many] at many'; cases many'
    | customType _ type' => rw [type] at type'; cases type'
    | model _ _ rest' => rw [ih rest']
    | scalar _ _ notModel => exact absurd type (notModel _)
  | scalar many notCustom notModel _ ih =>
    cases selects' with
    | hasMany many' => rw [many] at many'; cases many'
    | customType _ type' => exact absurd type' (notCustom _)
    | model _ type' => exact absurd type' (notModel _)
    | scalar _ _ _ rest' => rw [ih rest']

/-- A level selects its fields other than has-many ones, in declaration order. -/
theorem Selects.names {fields : List ModelField} {entries : List Selection}
    (selects : s.Selects fields entries) :
    entries.map Selection.name = (fields.filter fun f => !f.isHasMany).map ModelField.name := by
  induction selects with
  | nil => rfl
  | hasMany many _ ih => simp [many, ih]
  | customType many _ _ _ _ _ ih => simp [many, ih]
  | model many _ _ ih => simp [many, ih]
  | scalar many _ _ _ ih => simp [many, ih, Selection.leaf]

/-- Every level below a level's selections is sorted. -/
theorem Selects.ordered {fields : List ModelField} {entries : List Selection}
    (selects : s.Selects fields entries) : ∀ x ∈ entries, x.Ordered := by
  induction selects with
  | nil => simp
  | hasMany _ _ ih => exact ih
  | customType _ _ _ _ _ ihInner ihRest =>
    rintro x (_ | ⟨_, later⟩)
    · refine .node ((Selection.pairwise_sortByName _).imp Selection.bytesLE_iff.mpr) fun c mem => ?_
      exact ihInner c ((List.mergeSort_perm _ _).mem_iff.mp mem)
    · exact ihRest x later
  | model _ _ _ ih =>
    rintro x (_ | ⟨_, later⟩)
    · exact .node (by simp) (by simpa using Selection.ordered_leaf "id")
    · exact ih x later
  | scalar _ _ _ _ ih =>
    rintro x (_ | ⟨_, later⟩)
    · exact Selection.ordered_leaf _
    · exact ih x later

/-- On a valid schema, the record selection is the top level's selection with
the bookkeeping leaves appended, sorted once. -/
theorem recordSelection_eq_sortByName (valid : s.validate = .ok ()) :
    ∃ entries, s.Selects s.fields entries ∧ s.recordSelection =
      .ok (Selection.sortByName (entries ++ [.leaf "_deleted", .leaf "_lastChangedAt", .leaf "_version"])) := by
  obtain ⟨entries, walk, selects, -⟩ :=
    fieldEntries_of_checkFields _ (checkFields_of_validate valid) List.nodup_nil (by simp) (by simp)
  refine ⟨entries, selects, ?_⟩
  -- the level is sorted once on its own and once with the bookkeeping leaves
  rw [← Selection.sortByName_sortByName_append]
  simp [recordSelection, valid, fieldSelections, walk, Except.map, bind, Except.bind, pure, Except.pure]

/-! ### The builders carry the record selection -/

theorem subscriptionRequest_of_recordSelection {selection : List Selection}
    (selected : s.recordSelection = .ok selection) (kind : ChangeKind) :
    ∃ r, s.subscriptionRequest kind = .ok r ∧ r.selection = selection := by
  refine ⟨
    { operationType := .subscription, operationName := "On" ++ kind.verb ++ s.name,
      field := "on" ++ kind.verb ++ s.name, modelName := s.name, selection }, ?_, rfl⟩
  simp [subscriptionRequest, selected, bind, Except.bind, pure, Except.pure]

theorem selection_of_mutationRequest {kind : MutationKind} {input : Dictionary JsonValue}
    {condition : Option JsonValue} {r : Request} (built : s.mutationRequest kind input condition = .ok r) :
    s.recordSelection = .ok r.selection := by
  unfold mutationRequest at built
  obtain ⟨selection, selected, built⟩ := Except.bind_eq_ok built
  cases built
  cases condition <;> exact selected

theorem selection_of_createRequest {record : ModelRecord} {r : Request}
    (built : s.createRequest record = .ok r) : s.recordSelection = .ok r.selection := by
  obtain ⟨_, -, built⟩ := Except.bind_eq_ok built
  exact selection_of_mutationRequest built

theorem selection_of_updateRequest {record : ModelRecord} {version : Nat} {p : Predicate} {r : Request}
    (built : s.updateRequest record version p = .ok r) : s.recordSelection = .ok r.selection := by
  obtain ⟨_, -, built⟩ := Except.bind_eq_ok built
  obtain ⟨_, -, built⟩ := Except.bind_eq_ok built
  exact selection_of_mutationRequest built

theorem selection_of_deleteRequest {id : String} {version : Nat} {p : Predicate} {r : Request}
    (built : s.deleteRequest id version p = .ok r) : s.recordSelection = .ok r.selection := by
  obtain ⟨_, -, built⟩ := Except.bind_eq_ok built
  exact selection_of_mutationRequest built

/-- A sync query selects a page of records, the next page's token and the
time the sync started. -/
theorem selection_of_syncRequest {lastSync limit : Option Nat} {p : Predicate} {r : Request}
    (built : s.syncRequest lastSync limit p = .ok r) :
    ∃ items, s.recordSelection = .ok items ∧
      r.selection = [.node "items" items, .leaf "nextToken", .leaf "startedAt"] := by
  unfold syncRequest at built
  obtain ⟨items, selected, built⟩ := Except.bind_eq_ok built
  obtain ⟨filter, -, built⟩ := Except.bind_eq_ok built
  cases built
  refine ⟨items, selected, ?_⟩
  -- binding variables leaves the selection alone
  cases lastSync <;> cases limit <;> cases filter <;> rfl

/-- The record selection of a valid schema. Its top level lists the model's
fields other than has-many ones in declaration order, a scalar or enum as a
leaf, a model reference as `name { id }` and a custom-type field as a node of
its type's level; with `_deleted`, `_lastChangedAt` and `_version` appended,
that list is stably sorted by the byte order of names, duplicates kept. The
walk is a function of each level, so two fields of one custom type select the
same subtree, every level drops its has-many fields and every level is
sorted. Subscriptions of every kind, every mutation and the `items` of every
sync query select exactly this tree. -/
theorem recordSelection_spec {s : ModelSchema} (valid : s.validate = .ok ()) :
    ∃ entries selection, s.Selects s.fields entries ∧
      selection = Selection.sortByName (entries ++ [.leaf "_deleted", .leaf "_lastChangedAt", .leaf "_version"]) ∧
      s.recordSelection = .ok selection ∧
      Selection.StablySorted (entries ++ [.leaf "_deleted", .leaf "_lastChangedAt", .leaf "_version"])
        selection ∧
      (∀ x ∈ selection, x.Ordered) ∧
      (∀ fields e e', s.Selects fields e → s.Selects fields e' → e = e') ∧
      (∀ fields e, s.Selects fields e →
        e.map Selection.name = (fields.filter fun f => !f.isHasMany).map ModelField.name) ∧
      (∀ kind, ∃ r, s.subscriptionRequest kind = .ok r ∧ r.selection = selection) ∧
      (∀ kind input condition r, s.mutationRequest kind input condition = .ok r → r.selection = selection) ∧
      (∀ record r, s.createRequest record = .ok r → r.selection = selection) ∧
      (∀ record version p r, s.updateRequest record version p = .ok r → r.selection = selection) ∧
      (∀ id version p r, s.deleteRequest id version p = .ok r → r.selection = selection) ∧
      (∀ lastSync limit p r, s.syncRequest lastSync limit p = .ok r →
        r.selection = [.node "items" selection, .leaf "nextToken", .leaf "startedAt"]) := by
  obtain ⟨entries, selects, selected⟩ := recordSelection_eq_sortByName valid
  have carried : ∀ {other : List Selection}, s.recordSelection = .ok other →
      other = Selection.sortByName (entries ++ [.leaf "_deleted", .leaf "_lastChangedAt", .leaf "_version"]) :=
    fun {other} same => Except.ok.inj (same.symm.trans selected)
  have ordered : ∀ x ∈ Selection.sortByName
      (entries ++ [.leaf "_deleted", .leaf "_lastChangedAt", .leaf "_version"]), x.Ordered := by
    intro x mem
    rcases List.mem_append.mp ((List.mergeSort_perm _ _).mem_iff.mp mem) with walked | bookkeeping
    · exact selects.ordered x walked
    · simp only [List.mem_cons, List.not_mem_nil, or_false] at bookkeeping
      rcases bookkeeping with rfl | rfl | rfl <;> exact Selection.ordered_leaf _
  refine ⟨entries, _, selects, rfl, selected, Selection.stablySorted_sortByName _, ordered,
    fun _ _ _ => Selects.unique, fun _ _ => Selects.names, subscriptionRequest_of_recordSelection selected,
    fun _ _ _ _ built => carried (selection_of_mutationRequest built),
    fun _ _ built => carried (selection_of_createRequest built),
    fun _ _ _ _ built => carried (selection_of_updateRequest built),
    fun _ _ _ _ built => carried (selection_of_deleteRequest built), fun _ _ _ _ built => ?_⟩
  obtain ⟨items, itemsSelected, shape⟩ := selection_of_syncRequest built
  rw [shape, carried itemsSelected]

/-- Posts with two fields of one custom type and a has-many field. -/
def postWithAddresses : ModelSchema where
  name := "Post"
  fields := [.mkRequired "id" .id, .mkOptional "work" (.customType "Address"),
    .mkOptional "home" (.customType "Address"), .mkHasMany "comments" "Comment"]
  customTypes := Dictionary.empty.insert "Address" { name := "Address", fields := [.mkOptional "street" .string] }

theorem recordSelection_spec_shared_type :
    postWithAddresses.validate = .ok () ∧
    ∃ entries selection, postWithAddresses.Selects postWithAddresses.fields entries ∧
      postWithAddresses.recordSelection = .ok selection := by
  have valid : postWithAddresses.validate = .ok () := by
    have names : isGraphQLName "Post" = true ∧ isGraphQLName "Posts" = true ∧ isGraphQLName "id" = true ∧
        isGraphQLName "work" = true ∧ isGraphQLName "home" = true ∧ isGraphQLName "comments" = true ∧
        isGraphQLName "street" = true := by
      decide
    simp [postWithAddresses, validate, checkName, checkFields, ownerRules, plural, customType?, Dictionary.get?,
      Dictionary.insert, Dictionary.insertEntry, Dictionary.empty, ModelField.mkRequired, ModelField.mkOptional,
      ModelField.mkHasMany, ModelField.targetName?, names, bind, Except.bind, pure, Except.pure]
  obtain ⟨entries, selection, selects, -, selected, -⟩ := recordSelection_spec valid
  exact ⟨valid, entries, selection, selects, selected⟩

end ModelSchema

end ModelSync
