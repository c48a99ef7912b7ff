import ModelSync.Predicate.Basic
/-!
Building predicates by combination keeps their leaves.

Joining `p` with `q` by `and` appends `q` to `p` when `p` is already an `and`
group, and otherwise makes the group `[p, q]`; `or` does the same with its own
kind, and `not` wraps. So a chain of joins of one kind builds one flat group
of the joined predicates, each kept whole (`Predicate.foldl_combine`), and
any sequence of building steps (`Predicate.Step`) lists the leaves of its
start followed by those of each step's arguments (`Predicate.leaves_build`):
no leaf is reordered, dropped or repeated.
-/
namespace ModelSync
namespace Predicate

/-- One step of building a predicate from the one built so far. -/
inductive Step where
  /-- Joins it with `q` by `and`. -/
  | and (q : Predicate)
  /-- Joins it with `q` by `or`. -/
  | or (q : Predicate)
  /-- Negates it. -/
  | not
  /-- The `and` group of it followed by `qs`. -/
  | andOf (qs : List Predicate)
  /-- The `or` group of it followed by `qs`. -/
  | orOf (qs : List Predicate)

namespace Step

/-- The predicate after the step. -/
def apply (p : Predicate) : Step → Predicate
  | .and q => p.and q
  | .or q => p.or q
  | .not => p.negate
  | .andOf qs => groupOf .and (p :: qs)
  | .orOf qs => groupOf .or (p :: qs)

/-- The predicates the step brings in. -/
def arguments : Step → List Predicate
  | .and q | .or q => [q]
  | .not => []
  | .andOf qs | .orOf qs => qs

end Step

/-- The predicate built from `p` by the steps, in order. -/
def build (p : Predicate) (steps : List Step) : Predicate := steps.foldl Step.apply p

/-! ## Leaves of groups -/

@[simp] theorem leaves_group (kind : GroupKind) (children : List Predicate) :
    (group kind children).leaves = leaves.leavesOf children := by
  simp [leaves]

@[simp] theorem leavesOf_nil : leaves.leavesOf [] = [] := rfl

@[simp] theorem leavesOf_cons (p : Predicate) (ps : List Predicate) :
    leaves.leavesOf (p :: ps) = p.leaves ++ leaves.leavesOf ps := rfl

@[simp] theorem leavesOf_append (ps qs : List Predicate) :
    leaves.leavesOf (ps ++ qs) = leaves.leavesOf ps ++ leaves.leavesOf qs := by
  induction ps with
  | nil => rfl
  | cons p ps ih => simp [ih]

/-! ## One join -/

/-- A group is extended only by a join of its own kind. -/
theorem combine_group_self (kind : GroupKind) (cs : List Predicate) (q : Predicate) :
    combine kind (group kind cs) q = group kind (cs ++ [q]) := by
  simp [combine]

/-- Anything but a group of the join's kind becomes the first of a pair. -/
theorem combine_of_ne {kind : GroupKind} {p : Predicate} (other : ∀ cs, p ≠ group kind cs)
    (q : Predicate) : combine kind p q = group kind [p, q] := by
  cases p with
  | group k cs =>
    have differs : k ≠ kind := by
      rintro rfl
      exact other cs rfl
    simp [combine, differs]
  | all | leaf => rfl

/-- A join lists the leaves of both sides, left side first. -/
theorem leaves_combine (kind : GroupKind) (p q : Predicate) :
    (combine kind p q).leaves = p.leaves ++ q.leaves := by
  by_cases same : ∃ cs, p = group kind cs
  · obtain ⟨cs, rfl⟩ := same
    simp [combine_group_self]
  · rw [combine_of_ne (fun cs h => same ⟨cs, h⟩)]
    simp

/-! ## Chains of joins -/

/-- Joining a group of the same kind with each of `qs` appends them, unchanged. -/
theorem foldl_combine_group (kind : GroupKind) (cs qs : List Predicate) :
    qs.foldl (combine kind) (group kind cs) = group kind (cs ++ qs) := by
  induction qs generalizing cs with
  | nil => simp
  | cons q qs ih => rw [List.foldl_cons, combine_group_self, ih, List.append_assoc, List.singleton_append]

/-- A chain of joins of one kind builds one flat group: the receiver's own
children come first when it is a group of that kind, the receiver itself
otherwise, and the joined predicates follow as they are. -/
theorem foldl_combine (kind : GroupKind) (p : Predicate) {qs : List Predicate} (nonempty : qs ≠ []) :
    (∀ cs, p = groupOf kind cs → qs.foldl (combine kind) p = groupOf kind (cs ++ qs)) ∧
    ((∀ cs, p ≠ groupOf kind cs) → qs.foldl (combine kind) p = groupOf kind (p :: qs)) := by
  refine ⟨fun cs extended => by rw [extended]; exact foldl_combine_group kind cs qs, fun other => ?_⟩
  obtain ⟨q, rest, rfl⟩ := List.exists_cons_of_ne_nil nonempty
  -- the first join makes the pair, and the rest extend it
  rw [List.foldl_cons, combine_of_ne other, foldl_combine_group]
  rfl

/-! ## Sequences of building steps -/

/-- A step lists the leaves of what it starts from, then those of its arguments. -/
theorem leaves_apply (p : Predicate) (step : Step) :
    (step.apply p).leaves = p.leaves ++ leaves.leavesOf step.arguments := by
  cases step with
  | and q => simp [Step.apply, Step.arguments, Predicate.and, leaves_combine]
  | or q => simp [Step.apply, Step.arguments, Predicate.or, leaves_combine]
  | not => simp [Step.apply, Step.arguments, negate]
  | andOf qs => simp [Step.apply, Step.arguments, groupOf]
  | orOf qs => simp [Step.apply, Step.arguments, groupOf]

/-- Building lists the leaves of the start, then those of each step's
arguments in the order of the steps. -/
theorem leaves_build (p : Predicate) (steps : List Step) :
    (p.build steps).leaves = p.leaves ++ steps.flatMap fun step => leaves.leavesOf step.arguments := by
  induction steps generalizing p with
  | nil => simp [build]
  | cons step steps ih =>
    rw [build, List.foldl_cons, ← build, ih, leaves_apply, List.flatMap_cons, List.append_assoc]

/-- Joining `p` with `q₁, …, qₙ` by `and` extends `p` when it is an `and`
group and otherwise makes the group `[p, q₁, …, qₙ]`, never flattening the
`qᵢ`, and likewise for `or`; and any sequence of building steps lists the
leaves of its start followed by those of each step's arguments, in order. -/
theorem combine_spec (p : Predicate) {qs : List Predicate} (nonempty : qs ≠ []) (steps : List Step) :
    ((∀ cs, p = groupOf .and cs → qs.foldl Predicate.and p = groupOf .and (cs ++ qs)) ∧
      ((∀ cs, p ≠ groupOf .and cs) → qs.foldl Predicate.and p = groupOf .and (p :: qs))) ∧
    ((∀ cs, p = groupOf .or cs → qs.foldl Predicate.or p = groupOf .or (cs ++ qs)) ∧
      ((∀ cs, p ≠ groupOf .or cs) → qs.foldl Predicate.or p = groupOf .or (p :: qs))) ∧
    (p.build steps).leaves = p.leaves ++ steps.flatMap fun step => leaves.leavesOf step.arguments :=
  ⟨foldl_combine .and p nonempty, foldl_combine .or p nonempty, leaves_build p steps⟩

theorem combine_spec_chain :
    [leaf "b" (.eq (.bool true)), leaf "c" (.eq (.bool false))] ≠ [] ∧
    [leaf "b" (.eq (.bool true)), leaf "c" (.eq (.bool false))].foldl Predicate.and (leaf "a" (.eq .null)) =
      groupOf .and [leaf "a" (.eq .null), leaf "b" (.eq (.bool true)), leaf "c" (.eq (.bool false))] ∧
    ((leaf "a" (.eq .null)).build
        [.and (leaf "b" (.eq (.bool true))), .or (leaf "c" (.eq (.bool false)))]).leaves =
      [("a", .eq .null), ("b", .eq (.bool true)), ("c", .eq (.bool false))] := by
  have nonempty : [leaf "b" (.eq (.bool true)), leaf "c" (.eq (.bool false))] ≠ [] := by simp
  have spec := combine_spec (leaf "a" (.eq .null)) nonempty
    [.and (leaf "b" (.eq (.bool true))), .or (leaf "c" (.eq (.bool false)))]
  refine ⟨nonempty, spec.1.2 (by intro cs h; cases h), ?_⟩
  rw [spec.2.2]
  rfl

end Predicate
end ModelSync
