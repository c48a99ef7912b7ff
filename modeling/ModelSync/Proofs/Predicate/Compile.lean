import ModelSync.Filter
/-!
What the predicate compiler accepts and what it produces.

A predicate is walked in pre-order, each node with whether it sits below a
group (`Predicate.nodes`). Two kinds of node have no filter form
(`Predicate.nodeFault`): a `not` group without exactly one child, and a
match-all below a group. A predicate is well-formed when no node is of
either kind. The filter object of a node is given by `Predicate.toFilter`:
`{field: {operator: operand}}` for a leaf, `{"and"|"or": [children]}` for a
join, `{"not": child}` for a negation.

Main statement (`Predicate.compile_spec`): match-all compiles to no filter;
any other predicate compiles to its filter object exactly when it is
well-formed, and otherwise fails with the fault of its first offending node
in pre-order, so a `not` of the wrong arity is reported before anything
below it, and siblings are looked at left to right.
-/
namespace ModelSync.Predicate

/-- The nodes of a predicate in pre-order, each paired with whether it sits
below a group. -/
def nodes (nested : Bool) : Predicate → List (Bool × Predicate)
  | all => [(nested, all)]
  | leaf field comparison => [(nested, leaf field comparison)]
  | group kind children => (nested, group kind children) :: nodesOf children
where
  /-- The nodes of a group's children, each below the group, left to right. -/
  nodesOf : List Predicate → List (Bool × Predicate)
    | [] => []
    | p :: rest => nodes true p ++ nodesOf rest

/-- Why a node has no filter form: a match-all below a group, or a `not`
group without exactly one child. -/
def nodeFault : Bool × Predicate → Option BuildError
  | (true, all) => some nestedAllError
  | (_, group .not children) =>
    if children.length = 1 then none else some (notArityError children.length)
  | _ => none

/-- No node of the predicate is at fault: every `not` group at any depth has
exactly one child, and match-all occurs nowhere below a group. -/
def WellFormed (p : Predicate) : Prop := ∀ x ∈ p.nodes false, nodeFault x = none

instance (p : Predicate) : Decidable p.WellFormed := by
  unfold WellFormed; infer_instance

/-- The filter object of a predicate in the backend's grammar. Match-all has
none and is given `null`; a `not` group is read through its first child. -/
def toFilter : Predicate → JsonValue
  | all => .null
  | leaf field comparison => .object [(field, .object [(comparison.name, comparison.operand)])]
  | group .not [child] => .object [("not", toFilter child)]
  | group kind children => .object [(kind.name, .array (toFilters children))]
where
  /-- The filter objects of a group's children, in order. -/
  toFilters : List Predicate → List JsonValue
    | [] => []
    | p :: rest => toFilter p :: toFilters rest

@[simp] theorem nodes_all (nested : Bool) : all.nodes nested = [(nested, all)] := by
  simp [nodes]

@[simp] theorem nodes_leaf (nested : Bool) (field : String) (comparison : Comparison) :
    (leaf field comparison).nodes nested = [(nested, leaf field comparison)] := by
  simp [nodes]

@[simp] theorem nodes_group (nested : Bool) (kind : GroupKind) (children : List Predicate) :
    (group kind children).nodes nested =
      (nested, group kind children) :: nodes.nodesOf children := by
  simp [nodes]

@[simp] theorem nodesOf_nil : nodes.nodesOf [] = [] := by
  simp [nodes.nodesOf]

@[simp] theorem nodesOf_cons (p : Predicate) (rest : List Predicate) :
    nodes.nodesOf (p :: rest) = p.nodes true ++ nodes.nodesOf rest := by
  simp [nodes.nodesOf]

@[simp] theorem nodeFault_all (nested : Bool) :
    nodeFault (nested, all) = if nested then some nestedAllError else none := by
  cases nested <;> rfl

@[simp] theorem nodeFault_leaf (nested : Bool) (field : String) (comparison : Comparison) :
    nodeFault (nested, leaf field comparison) = none := by
  cases nested <;> rfl

@[simp] theorem nodeFault_not (nested : Bool) (children : List Predicate) :
    nodeFault (nested, group .not children) =
      if children.length = 1 then none else some (notArityError children.length) := by
  cases nested <;> rfl

/-- A join is never at fault itself; its children may be. -/
theorem nodeFault_join {kind : GroupKind} (nested : Bool) (join : kind ≠ .not)
    (children : List Predicate) : nodeFault (nested, group kind children) = none := by
  cases kind with
  | not => exact absurd rfl join
  | and | or => cases nested <;> rfl

/-- The compiler's answer on a node, read off its first fault in pre-order. -/
def answer (faults : List (Bool × Predicate)) {α : Type} (value : α) : Except BuildError α :=
  match faults.findSome? nodeFault with
  | some e => .error e
  | none => .ok value

theorem answer_append (first rest : List (Bool × Predicate)) {α β γ : Type} (a : α) (b : β)
    (f : α → β → γ) :
    answer (first ++ rest) (f a b) = (do let x ← answer first a; let y ← answer rest b; pure (f x y)) := by
  unfold answer
  rw [List.findSome?_append]
  cases first.findSome? nodeFault <;> cases rest.findSome? nodeFault <;> rfl

/-- A join compiles its children and wraps them under its name. -/
theorem compileNode_join {kind : GroupKind} (join : kind ≠ .not) {children : List Predicate}
    (below : compileChildren children = answer (nodes.nodesOf children) (toFilter.toFilters children)) :
    compileNode (group kind children) = answer ((group kind children).nodes true)
      (group kind children).toFilter := by
  -- the join itself is not at fault, so its answer is its children's, wrapped
  have wrapped : answer ((group kind children).nodes true) (group kind children).toFilter =
      (answer (nodes.nodesOf children) (toFilter.toFilters children)).map
        fun cs => .object [(kind.name, .array cs)] := by
    unfold answer
    rw [nodes_group, List.findSome?_cons, nodeFault_join true join]
    cases (nodes.nodesOf children).findSome? nodeFault with
    | some e => rfl
    | none =>
      cases kind with
      | not => exact absurd rfl join
      | and | or => rfl
  rw [wrapped, ← below]
  cases kind with
  | not => exact absurd rfl join
  | and | or => rfl

mutual

/-- Below a group, a node compiles to its filter object unless a node of its
subtree is at fault; then the first fault in pre-order is reported. -/
theorem compileNode_eq : ∀ p : Predicate, compileNode p = answer (p.nodes true) p.toFilter
  | all => by simp [compileNode, answer, nodeFault]
  | leaf field comparison => by simp [compileNode, answer, nodeFault, toFilter]
  | group .not [child] => by
    -- a `not` of one child is not at fault itself: its answer is its child's
    simp only [compileNode, nodes_group, nodesOf_cons, nodesOf_nil, List.append_nil, toFilter]
    rw [compileNode_eq child]
    unfold answer
    simp only [List.findSome?_cons, nodeFault, List.length_singleton, if_true]
    cases (child.nodes true).findSome? nodeFault <;> rfl
  | group .not [] => by simp [compileNode, answer, nodeFault]
  | group .not (_ :: _ :: _) => by simp [compileNode, answer, nodeFault]
  | group .and children => compileNode_join (by decide) (compileChildren_eq children)
  | group .or children => compileNode_join (by decide) (compileChildren_eq children)

/-- A group's children compile in order, the first fault winning. -/
theorem compileChildren_eq :
    ∀ children : List Predicate,
      compileChildren children = answer (nodes.nodesOf children) (toFilter.toFilters children)
  | [] => by simp [compileChildren, answer, toFilter.toFilters]
  | p :: rest => by
    rw [compileChildren, compileNode_eq p, compileChildren_eq rest, nodesOf_cons,
      toFilter.toFilters, answer_append _ _ p.toFilter (toFilter.toFilters rest) List.cons]

end

/-- The fault of a predicate's first offending node in pre-order, if any. -/
def firstFault (p : Predicate) : Option BuildError := (p.nodes false).findSome? nodeFault

theorem answer_eq_error {faults : List (Bool × Predicate)} {α : Type} {value : α} {e : BuildError} :
    answer faults value = .error e ↔ faults.findSome? nodeFault = some e := by
  unfold answer
  cases faults.findSome? nodeFault with
  | some e' => simp only [Except.error.injEq, Option.some.injEq]
  | none => simp only [reduceCtorEq]

theorem answer_eq_ok {faults : List (Bool × Predicate)} {α : Type} {value other : α} :
    answer faults value = .ok other ↔ faults.findSome? nodeFault = none ∧ value = other := by
  unfold answer
  cases faults.findSome? nodeFault with
  | some e => simp only [reduceCtorEq, false_and]
  | none => simp only [Except.ok.injEq, true_and]

/-- Every fault is an invalid predicate. -/
theorem nodeFault_invalidPredicate {x : Bool × Predicate} {e : BuildError} (h : nodeFault x = some e) :
    ∃ reason, e = .invalidPredicate reason := by
  obtain ⟨nested, p⟩ := x
  cases p with
  | all =>
    cases nested
    · simp at h
    · simp only [nodeFault_all, if_true, Option.some.injEq] at h
      exact ⟨_, h.symm⟩
  | leaf => simp at h
  | group kind children =>
    cases kind with
    | not =>
      rw [nodeFault_not] at h
      split at h
      · cases h
      · cases h
        exact ⟨_, rfl⟩
    | and | or => simp [nodeFault] at h

/-- A node other than match-all is at fault alike at the root and below a group. -/
theorem findSome?_nodes_root {p : Predicate} (notAll : p ≠ all) :
    (p.nodes false).findSome? nodeFault = (p.nodes true).findSome? nodeFault := by
  have same : nodeFault (false, p) = nodeFault (true, p) := by
    cases p with
    | all => exact absurd rfl notAll
    | leaf => rfl
    | group kind => cases kind <;> rfl
  cases p with
  | all => exact absurd rfl notAll
  | leaf | group => rw [nodes, nodes, List.findSome?_cons, List.findSome?_cons, same]

/-- At the root, a predicate other than match-all compiles as it would below a group. -/
theorem compile_of_ne_all {p : Predicate} (notAll : p ≠ all) :
    p.compile = answer (p.nodes false) (some p.toFilter) := by
  have root : p.compile = (compileNode p).map some := by
    cases p with
    | all => exact absurd rfl notAll
    | leaf | group => rfl
  rw [root, compileNode_eq]
  unfold answer
  rw [findSome?_nodes_root notAll]
  cases (p.nodes true).findSome? nodeFault <;> rfl

theorem wellFormed_iff_firstFault {p : Predicate} : p.WellFormed ↔ p.firstFault = none :=
  List.findSome?_eq_none_iff.symm

/-- The compiler's specification. Match-all, and only match-all, compiles to
no filter. Any other predicate compiles to its filter object exactly when it
is well-formed. A compilation fails exactly with the fault of the first
offending node in pre-order, and that fault is an invalid predicate. -/
theorem compile_spec (p : Predicate) :
    (p.compile = .ok none ↔ p = all) ∧
    (p ≠ all → (p.compile = .ok (some p.toFilter) ↔ p.WellFormed)) ∧
    (∀ e, p.compile = .error e ↔ p.firstFault = some e) ∧
    (∀ e, p.compile = .error e → ∃ reason, e = .invalidPredicate reason) := by
  by_cases root : p = all
  · subst root
    have clean : all.firstFault = none := by simp [firstFault, nodeFault]
    refine ⟨by simp [compile], fun notAll => absurd rfl notAll, fun e => ?_, fun e h => ?_⟩
    · simp [compile, clean]
    · cases h
  · have compiled := compile_of_ne_all root
    have failing : ∀ e, p.compile = .error e ↔ p.firstFault = some e := fun e => by
      rw [compiled, answer_eq_error, firstFault]
    refine ⟨?_, fun _ => ?_, failing, fun e h => ?_⟩
    · simp only [root, iff_false, compiled, answer_eq_ok]
      simp
    · rw [compiled, answer_eq_ok, wellFormed_iff_firstFault, firstFault]
      simp
    · obtain ⟨x, -, fault⟩ := List.exists_of_findSome?_eq_some ((failing e).mp h)
      exact nodeFault_invalidPredicate fault

/-- A `not` of two children is reported before the match-all below it. -/
example : (group .not [all, leaf "a" (.eq .null)]).compile = .error (notArityError 2) := rfl

end ModelSync.Predicate
