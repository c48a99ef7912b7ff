import ModelSync.Request.Subscription
import ModelSync.Request.Sync
import Mathlib.Data.List.Perm.Subperm
/-!
The selection of a validated schema.

The walk that selects a record's fields enters custom types with a depth
budget, the one validation uses. On a schema that passed validation the
budget never runs out first: the types entered along a path are distinct
stored keys (validation refuses a type inside itself and an unknown type),
so a path is never longer than the number of stored types
(`ModelSchema.length_le_size`). The walk then agrees with the unbounded walk
`ModelSchema.Selects`, which therefore finishes, meets no unknown type, and
names only GraphQL names, since validation checked every field's name on the
way (`ModelSchema.fieldEntries_of_checkFields`). The requests built from the
selection follow (`ModelSchema.selection_of_validate`).
-/
namespace ModelSync

theorem Except.bind_eq_ok {ε α β : Type} {x : Except ε α} {g : α → Except ε β} {b : β}
    (h : x >>= g = .ok b) : ∃ a, x = .ok a ∧ g a = .ok b := by
  cases x with
  | error e => cases h
  | ok a => exact ⟨a, rfl, h⟩

/-- A success passes its value on. -/
theorem Except.ok_bind {ε α β : Type} (a : α) (k : α → Except ε β) : (Except.ok a >>= k) = k a := rfl

/-- Every field a selection names, at every depth, satisfies `p`. -/
inductive Selection.Named (p : String → Prop) : Selection → Prop
  | node {name : String} {children : List Selection} :
      p name → (∀ c ∈ children, Named p c) → Named p (.node name children)

namespace ModelSchema

/-- The selections of a level of fields, entering custom types without any
bound: a has-many field is left out, a model reference selects its `id`, a
custom-type field selects its type's fields sorted by name, and any other
field is a leaf. A derivation is a walk that finishes. -/
inductive Selects (s : ModelSchema) : List ModelField → List Selection → Prop
  | nil : Selects s [] []
  | hasMany {f : ModelField} {rest : List ModelField} {entries : List Selection} :
      f.isHasMany = true → Selects s rest entries → Selects s (f :: rest) entries
  | customType {f : ModelField} {rest : List ModelField} {typeName : String} {custom : CustomType}
      {inner entries : List Selection} :
      f.isHasMany = false → f.fieldType = .customType typeName → s.customType? typeName = some custom →
      Selects s custom.fields inner → Selects s rest entries →
      Selects s (f :: rest) (.node f.name (Selection.sortByName inner) :: entries)
  | model {f : ModelField} {rest : List ModelField} {target : String} {entries : List Selection} :
      f.isHasMany = false → f.fieldType = .model target → Selects s rest entries →
      Selects s (f :: rest) (.node f.name [.leaf "id"] :: entries)
  | scalar {f : ModelField} {rest : List ModelField} {entries : List Selection} :
      f.isHasMany = false → (∀ n, f.fieldType ≠ .customType n) → (∀ n, f.fieldType ≠ .model n) →
      Selects s rest entries → Selects s (f :: rest) (.leaf f.name :: entries)

variable {s : ModelSchema}

theorem checkFields_cons {budget : Nat} {path : List String} {f : ModelField} {rest : List ModelField}
    (checked : s.checkFields budget path (f :: rest) = .ok ()) :
    isGraphQLName f.name = true ∧ s.checkFields budget path rest = .ok () ∧
    ∀ typeName, f.fieldType = .customType typeName →
      typeName ∉ path ∧ ∃ custom, s.customType? typeName = some custom ∧
        ∀ b, budget = b + 1 → s.checkFields b (typeName :: path) custom.fields = .ok () := by
  rw [checkFields] at checked
  obtain ⟨⟨⟩, name, checked⟩ := Except.bind_eq_ok checked
  have named : isGraphQLName f.name = true := by
    cases bad : isGraphQLName f.name
    · simp [checkName, bad] at name
    · rfl
  refine ⟨named, ?_⟩
  dsimp only at checked
  -- the target's name is checked next; what follows does not depend on it
  split at checked
  all_goals try (obtain ⟨⟨⟩, -, checked⟩ := Except.bind_eq_ok checked)
  all_goals
    split at checked
    · next typeName type =>
      split at checked
      · -- a type inside itself is refused
        obtain ⟨_, thrown, -⟩ := Except.bind_eq_ok checked
        cases thrown
      · next fresh =>
        split at checked
        · obtain ⟨_, thrown, -⟩ := Except.bind_eq_ok checked
          cases thrown
        · next custom stored =>
          have entered : ∀ typeName', f.fieldType = .customType typeName' → typeName' = typeName := by
            intro typeName' type'
            rw [type] at type'
            exact (FieldType.customType.inj type').symm
          cases budget with
          | zero =>
            refine ⟨checked, fun typeName' type' => ?_⟩
            obtain rfl := entered typeName' type'
            exact ⟨by simpa using fresh, custom, stored, fun b zero => by omega⟩
          | succ b =>
            obtain ⟨⟨⟩, inner, checked⟩ := Except.bind_eq_ok checked
            refine ⟨checked, fun typeName' type' => ?_⟩
            obtain rfl := entered typeName' type'
            exact ⟨by simpa using fresh, custom, stored, fun b' same => by
              obtain rfl : b = b' := by omega
              exact inner⟩
    · rename_i notCustom
      exact ⟨checked, fun typeName type => absurd type (notCustom typeName)⟩

/-- What the walk of a level yields on a schema that passed validation: the
unbounded walk's selections, every name a GraphQL name. -/
def Walked (s : ModelSchema) (fields : List ModelField) (entries : List Selection) : Prop :=
  s.Selects fields entries ∧ ∀ x ∈ entries, x.Named fun n => isGraphQLName n = true

theorem named_leaf {name : String} {p : String → Prop} (h : p name) : (Selection.leaf name).Named p :=
  .node h (by simp)

theorem walked_nil : s.Walked [] [] := ⟨.nil, by simp⟩

theorem named_sortByName {entries : List Selection} {p : String → Prop}
    (h : ∀ x ∈ entries, x.Named p) : ∀ x ∈ Selection.sortByName entries, x.Named p := by
  intro x mem
  exact h x (List.mem_mergeSort.mp mem)

/-- One field of a checked level: its entry, given the level below for a
custom type and the rest of the level. -/
theorem fieldEntries_cons {budget : Nat} {path : List String} {f : ModelField}
    {rest : List ModelField} {others : List Selection}
    (checked : s.checkFields budget path (f :: rest) = .ok ())
    (restEntries : s.fieldEntries budget rest = .ok others) (restWalked : s.Walked rest others)
    (below : ∀ typeName custom, f.fieldType = .customType typeName →
      s.customType? typeName = some custom → typeName ∉ path →
      ∃ b, budget = b + 1 ∧ ∃ inner, s.fieldEntries b custom.fields = .ok inner ∧
        s.Walked custom.fields inner) :
    ∃ entries, s.fieldEntries budget (f :: rest) = .ok entries ∧ s.Walked (f :: rest) entries := by
  obtain ⟨named, -, entered⟩ := checkFields_cons checked
  cases many : f.isHasMany
  · cases type : f.fieldType with
    | customType typeName =>
      obtain ⟨fresh, custom, stored, -⟩ := entered typeName type
      obtain ⟨b, rfl, inner, innerEntries, innerWalked⟩ := below typeName custom type stored fresh
      refine ⟨.node f.name (Selection.sortByName inner) :: others, by
        simp [fieldEntries, many, type, stored, innerEntries, restEntries, bind, Except.bind, pure,
          Except.pure], ?_⟩
      refine ⟨.customType many type stored innerWalked.1 restWalked.1, ?_⟩
      rintro x (_ | ⟨_, mem⟩)
      · exact .node named (named_sortByName innerWalked.2)
      · exact restWalked.2 x mem
    | model target =>
      refine ⟨.node f.name [.leaf "id"] :: others, by
        simp [fieldEntries, many, type, restEntries, bind, Except.bind, pure, Except.pure], ?_⟩
      refine ⟨.model many type restWalked.1, ?_⟩
      rintro x (_ | ⟨_, mem⟩)
      · exact .node named (by simpa using named_leaf (by decide))
      · exact restWalked.2 x mem
    | _ =>
      refine ⟨.leaf f.name :: others, by
        simp [fieldEntries, many, type, restEntries, bind, Except.bind, pure, Except.pure], ?_⟩
      refine ⟨.scalar many (by simp [type]) (by simp [type]) restWalked.1, ?_⟩
      rintro x (_ | ⟨_, mem⟩)
      · exact named_leaf named
      · exact restWalked.2 x mem
  · refine ⟨others, by simp [fieldEntries, many, restEntries, bind, Except.bind, pure, Except.pure], ?_⟩
    exact ⟨.hasMany many restWalked.1, restWalked.2⟩

theorem mem_keys_of_customType? {key : String} (stored : (s.customType? key).isSome) :
    key ∈ s.customTypes.keys := by
  obtain ⟨⟨k, t⟩, mem, same⟩ := List.lookup_isSome_iff.mp stored
  simp only [beq_iff_eq] at same
  subst same
  exact List.mem_map.mpr ⟨(key, t), mem, rfl⟩

/-- A path of distinct stored types is no longer than the types stored. -/
theorem length_le_size {path : List String} (distinct : path.Nodup)
    (stored : ∀ k ∈ path, (s.customType? k).isSome) : path.length ≤ s.customTypes.size :=
  calc path.length
      ≤ s.customTypes.keys.length :=
        (distinct.subperm fun k mem => mem_keys_of_customType? (stored k mem)).length_le
    _ = s.customTypes.size := by simp [Dictionary.keys, Dictionary.size]

/-- On a level that passed the check, the walk yields the unbounded walk's
selections, with GraphQL names throughout. The path of entered types is made
of distinct stored keys and the budget covers the types not yet entered, so
the budget never runs out before the walk does. -/
theorem fieldEntries_of_checkFields (budget : Nat) :
    ∀ {path : List String} {fields : List ModelField},
      s.checkFields budget path fields = .ok () → path.Nodup →
      (∀ k ∈ path, (s.customType? k).isSome) → s.customTypes.size + 1 ≤ budget + path.length →
      ∃ entries, s.fieldEntries budget fields = .ok entries ∧ s.Walked fields entries := by
  -- on the budget, for the level below; then on the fields of this level
  induction budget with
  | zero =>
    intro path fields checked distinct stored enough
    induction fields with
    | nil => exact ⟨[], by simp [fieldEntries], walked_nil⟩
    | cons f rest ih =>
      obtain ⟨others, restEntries, restWalked⟩ := ih (checkFields_cons checked).2.1
      refine fieldEntries_cons checked restEntries restWalked ?_
      -- a type entered with no budget left would lengthen the path past the stored types
      intro typeName custom _ held fresh
      have entered : ∀ k ∈ typeName :: path, (s.customType? k).isSome := by
        simpa [held] using stored
      have longer := length_le_size (List.nodup_cons.mpr ⟨fresh, distinct⟩) entered
      simp at longer
      omega
  | succ b ih =>
    intro path fields checked distinct stored enough
    induction fields with
    | nil => exact ⟨[], by simp [fieldEntries], walked_nil⟩
    | cons f rest ihr =>
      obtain ⟨others, restEntries, restWalked⟩ := ihr (checkFields_cons checked).2.1
      refine fieldEntries_cons checked restEntries restWalked ?_
      intro typeName custom type held fresh
      obtain ⟨-, custom', held', inner⟩ := (checkFields_cons checked).2.2 typeName type
      obtain rfl : custom' = custom := Option.some.inj (held'.symm.trans held)
      refine ⟨b, rfl, ih (inner b rfl) (List.nodup_cons.mpr ⟨fresh, distinct⟩)
        (by simpa [held] using stored) (by simp; omega)⟩

theorem checkFields_of_validate (valid : s.validate = .ok ()) :
    s.checkFields (s.customTypes.size + 1) [] s.fields = .ok () := by
  unfold validate at valid
  obtain ⟨_, -, valid⟩ := Except.bind_eq_ok valid
  obtain ⟨_, -, valid⟩ := Except.bind_eq_ok valid
  obtain ⟨_, -, valid⟩ := Except.bind_eq_ok valid
  exact valid

end ModelSchema

@[simp] theorem Selection.mem_sortByName {x : Selection} {items : List Selection} :
    x ∈ Selection.sortByName items ↔ x ∈ items :=
  List.mem_mergeSort

namespace ModelSchema

/-- A schema that passes validation has a selection: the walk into its custom
types finishes, never meets an unknown type, and names only GraphQL names at
every depth. So every subscription to its changes can be built, and so can
its sync query matching every record, for every last-sync time and page size. -/
theorem selection_of_validate {s : ModelSchema} (valid : s.validate = .ok ()) :
    ∃ entries, s.Selects s.fields entries ∧
      s.fieldSelections (s.customTypes.size + 1) s.fields = .ok (Selection.sortByName entries) ∧
      (∃ selection, s.recordSelection = .ok selection ∧
        ∀ x ∈ selection, x.Named fun n => isGraphQLName n = true) ∧
      (∀ kind, ∃ r, s.subscriptionRequest kind = .ok r) ∧
      (∀ lastSync limit, ∃ r, s.syncRequest lastSync limit .all = .ok r) := by
  obtain ⟨entries, walk, selects, named⟩ :=
    fieldEntries_of_checkFields _ (checkFields_of_validate valid) List.nodup_nil (by simp) (by simp)
  have fields : s.fieldSelections (s.customTypes.size + 1) s.fields = .ok (Selection.sortByName entries) := by
    simp [fieldSelections, walk, Except.map]
  have record : s.recordSelection = .ok (Selection.sortByName (Selection.sortByName entries ++
      [.leaf "_deleted", .leaf "_lastChangedAt", .leaf "_version"])) := by
    simp [recordSelection, valid, fields, bind, Except.bind, pure, Except.pure]
  refine ⟨entries, selects, fields, ⟨_, record, ?_⟩, fun kind => ?_, fun lastSync limit => ?_⟩
  · intro x mem
    simp only [Selection.mem_sortByName, List.mem_append, List.mem_cons, List.not_mem_nil,
      or_false] at mem
    rcases mem with mem | rfl | rfl | rfl
    · exact named x mem
    all_goals exact named_leaf (by decide)
  · simp [subscriptionRequest, record, bind, Except.bind, pure, Except.pure]
  · simp [syncRequest, record, syncFilterPredicate, Predicate.compile, bind, Except.bind, pure,
      Except.pure]

/-- Posts with an optional `meta` field of a custom type holding a tag. -/
def postWithMeta : ModelSchema where
  name := "Post"
  fields := [.mkRequired "id" .id, .mkOptional "meta" (.customType "Meta")]
  customTypes := Dictionary.empty.insert "Meta" { name := "Meta", fields := [.mkOptional "tag" .string] }

theorem selection_of_validate_post :
    postWithMeta.validate = .ok () ∧ ∀ kind, ∃ r, postWithMeta.subscriptionRequest kind = .ok r := by
  have valid : postWithMeta.validate = .ok () := by
    have names : isGraphQLName "Post" = true ∧ isGraphQLName "Posts" = true ∧
        isGraphQLName "id" = true ∧ isGraphQLName "meta" = true ∧ isGraphQLName "tag" = true := by
      decide
    simp [postWithMeta, validate, checkName, checkFields, ownerRules, plural, customType?, Dictionary.get?,
      Dictionary.insert, Dictionary.insertEntry, Dictionary.empty, ModelField.mkRequired,
      ModelField.mkOptional, ModelField.targetName?, names, bind, Except.bind, pure, Except.pure]
  obtain ⟨-, -, -, -, subscriptions, -⟩ := selection_of_validate valid
  exact ⟨valid, subscriptions⟩

end ModelSchema
end ModelSync
