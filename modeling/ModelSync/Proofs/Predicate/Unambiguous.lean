import ModelSync.Proofs.Predicate.Compile
/-!
A filter determines the predicate it was compiled from.

The compiler writes a leaf as an object keyed by its field, a join as an
object keyed by `and` or `or` holding an array, and a negation as an object
keyed by `not` holding its child; match-all has no filter at all. An
operator's name and operand give its comparison back, both bounds of a range
included (`Comparison.ofOperator?`), and a filter is never an array. So once
no leaf compares a field named like a group (`Predicate.FieldsPlain`), the key
of a filter tells a leaf from a group and one kind of group from another, and
the grammar is unambiguous. Main statement: `Predicate.compile_injective`.

A leaf on a field named `not` whose literal is itself an object reads as a
negation, which is why the side condition is needed.
-/
namespace ModelSync

namespace Comparison

/-- The comparison an operator's name and operand denote; a range reads its
operand as `[start, stop]`. -/
def ofOperator? (name : String) (operand : JsonValue) : Option Comparison :=
  if name = "between" then
    match operand with
    | .array [start, stop] => some (between start stop)
    | _ => none
  else ofName? name operand

theorem ofOperator?_name_operand (c : Comparison) : ofOperator? c.name c.operand = some c := by
  cases c <;> rfl

/-- A comparison is determined by its operator's name and its operand. -/
theorem eq_of_name_operand {c d : Comparison} (name : c.name = d.name) (operand : c.operand = d.operand) :
    c = d := by
  have read := ofOperator?_name_operand c
  rw [name, operand, ofOperator?_name_operand d] at read
  exact (Option.some.inj read).symm

end Comparison

theorem GroupKind.eq_of_name_eq {k k' : GroupKind} (same : k.name = k'.name) : k = k' := by
  cases k <;> cases k' <;> simp_all [GroupKind.name]

namespace Predicate

/-! ## Fields named like groups -/

theorem mem_leavesOf {x : String × Comparison} {ps : List Predicate} :
    x ∈ leaves.leavesOf ps ↔ ∃ p ∈ ps, x ∈ p.leaves := by
  induction ps with
  | nil => simp [leaves.leavesOf]
  | cons p ps ih => simp [leaves.leavesOf, ih]

/-- No leaf of the predicate compares a field named `and`, `or` or `not`. -/
def FieldsPlain (p : Predicate) : Prop := ∀ x ∈ p.leaves, ∀ kind : GroupKind, x.1 ≠ kind.name

theorem fieldsPlain_leaf {field : String} {c : Comparison} :
    (leaf field c).FieldsPlain ↔ ∀ kind : GroupKind, field ≠ kind.name := by
  simp [FieldsPlain, leaves]

theorem fieldsPlain_group {kind : GroupKind} {children : List Predicate} :
    (group kind children).FieldsPlain ↔ ∀ c ∈ children, c.FieldsPlain := by
  simp only [FieldsPlain, leaves, mem_leavesOf]
  constructor
  · intro plain c mem x leaf
    exact plain x ⟨c, mem, leaf⟩
  · rintro plain x ⟨c, mem, leaf⟩
    exact plain c mem x leaf

/-! ## The shape of a filter -/

theorem toFilters_eq_map (ps : List Predicate) : toFilter.toFilters ps = ps.map toFilter := by
  induction ps with
  | nil => rfl
  | cons p ps ih => simp [toFilter.toFilters, ih]

theorem toFilter_not_single (child : Predicate) :
    (group .not [child]).toFilter = .object [("not", child.toFilter)] := rfl

/-- A group other than a negation of one child holds the array of its
children's filters under its kind's name. -/
theorem toFilter_group_of_array {kind : GroupKind} {children : List Predicate}
    (array : ¬ (kind = .not ∧ ∃ c, children = [c])) :
    (group kind children).toFilter = .object [(kind.name, .array (children.map toFilter))] := by
  rw [← toFilters_eq_map]
  cases kind with
  | and | or => rfl
  | not =>
    match children, array with
    | [], _ => rfl
    | [c], array => exact absurd ⟨rfl, c, rfl⟩ array
    | _ :: _ :: _, _ => rfl

/-- A group's filter is an object of one member, keyed by the group's kind. -/
theorem toFilter_group_keyed (kind : GroupKind) (children : List Predicate) :
    ∃ body, (group kind children).toFilter = .object [(kind.name, body)] := by
  by_cases single : kind = .not ∧ ∃ c, children = [c]
  · obtain ⟨rfl, c, rfl⟩ := single
    exact ⟨_, toFilter_not_single c⟩
  · exact ⟨_, toFilter_group_of_array single⟩

/-- A filter is never an array. -/
theorem toFilter_ne_array (p : Predicate) (items : List JsonValue) : p.toFilter ≠ .array items := by
  cases p with
  | all => simp [toFilter]
  | leaf => simp [toFilter]
  | group kind children =>
    obtain ⟨body, shape⟩ := toFilter_group_keyed kind children
    simp [shape]

theorem eq_all_of_toFilter_eq_null {p : Predicate} (null : p.toFilter = .null) : p = all := by
  cases p with
  | all => rfl
  | leaf => simp [toFilter] at null
  | group kind children =>
    obtain ⟨body, shape⟩ := toFilter_group_keyed kind children
    simp [shape] at null

/-! ## Reading a filter back -/

/-- Two groups with the same filter are the same group, given that the
filters of the first one's children determine them. -/
theorem group_eq_of_toFilter_eq {kind kind' : GroupKind} {children children' : List Predicate}
    (below : children.map toFilter = children'.map toFilter → children = children')
    (same : (group kind children).toFilter = (group kind' children').toFilter) :
    group kind children = group kind' children' := by
  by_cases single : kind = .not ∧ ∃ c, children = [c]
  · obtain ⟨rfl, c, rfl⟩ := single
    by_cases single' : kind' = .not ∧ ∃ c', children' = [c']
    · obtain ⟨rfl, c', rfl⟩ := single'
      rw [toFilter_not_single, toFilter_not_single] at same
      have child : c.toFilter = c'.toFilter := by simpa using same
      rw [below (by simp [child])]
    · rw [toFilter_not_single, toFilter_group_of_array single'] at same
      simp only [JsonValue.object.injEq, List.cons.injEq, Prod.mk.injEq, and_true] at same
      exact absurd same.2 (toFilter_ne_array c _)
  · rw [toFilter_group_of_array single] at same
    by_cases single' : kind' = .not ∧ ∃ c', children' = [c']
    · obtain ⟨rfl, c', rfl⟩ := single'
      rw [toFilter_not_single] at same
      simp only [JsonValue.object.injEq, List.cons.injEq, Prod.mk.injEq, and_true] at same
      exact absurd same.2.symm (toFilter_ne_array c' _)
    · rw [toFilter_group_of_array single'] at same
      simp only [JsonValue.object.injEq, List.cons.injEq, Prod.mk.injEq, JsonValue.array.injEq,
        and_true] at same
      rw [GroupKind.eq_of_name_eq same.1, below same.2]

mutual

/-- Predicates whose fields are not named like groups are determined by their filters. -/
theorem eq_of_toFilter_eq : ∀ {p q : Predicate}, p.FieldsPlain → q.FieldsPlain →
    p.toFilter = q.toFilter → p = q
  | all, _, _, _, same => (eq_all_of_toFilter_eq_null same.symm).symm
  | leaf field c, q, plain, plain', same => by
    cases q with
    | all => exact eq_all_of_toFilter_eq_null same
    | leaf field' c' =>
      simp only [toFilter, JsonValue.object.injEq, List.cons.injEq, Prod.mk.injEq, and_true] at same
      obtain ⟨rfl, name, operand⟩ := same
      rw [Comparison.eq_of_name_operand name operand]
    | group kind' children' =>
      -- the leaf's field would be the group's kind
      obtain ⟨body, shape⟩ := toFilter_group_keyed kind' children'
      rw [shape] at same
      simp only [toFilter, JsonValue.object.injEq, List.cons.injEq, Prod.mk.injEq, and_true] at same
      exact absurd same.1 (fieldsPlain_leaf.mp plain kind')
  | group kind children, q, plain, plain', same => by
    cases q with
    | all => exact eq_all_of_toFilter_eq_null same
    | leaf field' c' =>
      obtain ⟨body, shape⟩ := toFilter_group_keyed kind children
      rw [shape] at same
      simp only [toFilter, JsonValue.object.injEq, List.cons.injEq, Prod.mk.injEq, and_true] at same
      exact absurd same.1.symm (fieldsPlain_leaf.mp plain' kind)
    | group kind' children' =>
      refine group_eq_of_toFilter_eq (fun below => ?_) same
      rw [← toFilters_eq_map, ← toFilters_eq_map] at below
      exact eq_of_toFilters_eq (fieldsPlain_group.mp plain) (fieldsPlain_group.mp plain') below

/-- Lists of such predicates are determined by their lists of filters. -/
theorem eq_of_toFilters_eq : ∀ {ps qs : List Predicate}, (∀ p ∈ ps, p.FieldsPlain) →
    (∀ q ∈ qs, q.FieldsPlain) → toFilter.toFilters ps = toFilter.toFilters qs → ps = qs
  | [], [], _, _, _ => rfl
  | [], _ :: _, _, _, same => by simp [toFilter.toFilters] at same
  | _ :: _, [], _, _, same => by simp [toFilter.toFilters] at same
  | p :: ps, q :: qs, plain, plain', same => by
    simp only [toFilter.toFilters, List.cons.injEq] at same
    rw [eq_of_toFilter_eq (plain p List.mem_cons_self) (plain' q List.mem_cons_self) same.1,
      eq_of_toFilters_eq (fun p' mem => plain p' (List.mem_cons_of_mem p mem))
        (fun q' mem => plain' q' (List.mem_cons_of_mem q mem)) same.2]

end

/-- What the compiler gives without error: no filter for match-all, and for
any other well-formed predicate its filter object. -/
theorem compile_eq_ok_iff {p : Predicate} {filter : Option JsonValue} :
    p.compile = .ok filter ↔ p = all ∧ filter = none ∨ p ≠ all ∧ p.WellFormed ∧ filter = some p.toFilter := by
  by_cases root : p = all
  · subst root
    simp [compile, eq_comm]
  · rw [compile_of_ne_all root, answer_eq_ok, wellFormed_iff_firstFault, firstFault]
    simp [root, eq_comm]

/-- The filter grammar is unambiguous. Two predicates that compile without
error to the same filter, neither comparing a field named `and`, `or` or
`not`, are the same predicate: the tree, the order of every group's children
and every literal, both bounds of a range included, can be read back from the
filter. -/
theorem compile_injective {p q : Predicate} {filter : Option JsonValue} (compiled : p.compile = .ok filter)
    (plain : p.FieldsPlain) (plain' : q.FieldsPlain) (same : p.compile = q.compile) : p = q := by
  have compiled' : q.compile = .ok filter := same ▸ compiled
  rcases compile_eq_ok_iff.mp compiled with ⟨rfl, rfl⟩ | ⟨notAll, -, rfl⟩
  · rcases compile_eq_ok_iff.mp compiled' with ⟨rfl, -⟩ | ⟨-, -, absent⟩
    · rfl
    · cases absent
  · rcases compile_eq_ok_iff.mp compiled' with ⟨-, absent⟩ | ⟨-, -, filters⟩
    · cases absent
    · exact eq_of_toFilter_eq plain plain' (Option.some.inj filters)

/-- A leaf on a field named `not` compiles as a negation does. -/
example : (leaf "not" (.eq (.object [("eq", .null)]))).compile =
    (group .not [leaf "eq" (.eq .null)]).compile := rfl

theorem compile_injective_range :
    (group .not [leaf "rating" (.between (.number (.integer 1)) (.number (.integer 5)))]).compile =
      .ok (some (group .not [leaf "rating" (.between (.number (.integer 1)) (.number (.integer 5)))]).toFilter) ∧
    (group .not [leaf "rating" (.between (.number (.integer 1)) (.number (.integer 5)))]).FieldsPlain ∧
    group .not [leaf "rating" (.between (.number (.integer 1)) (.number (.integer 5)))] =
      group .not [leaf "rating" (.between (.number (.integer 1)) (.number (.integer 5)))] := by
  have plain : (group .not [leaf "rating" (.between (.number (.integer 1)) (.number (.integer 5)))]).FieldsPlain := by
    refine fieldsPlain_group.mpr fun c mem => ?_
    rw [List.mem_singleton.mp mem, fieldsPlain_leaf]
    intro kind
    cases kind <;> decide
  exact ⟨rfl, plain, compile_injective rfl plain plain rfl⟩

end Predicate
end ModelSync
