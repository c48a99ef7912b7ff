import ModelSync.Proofs.Schema.Selection
/-!
What schema validation accepts, and which failure it reports.

Validation makes a sequence of checks (`ModelSchema.checks`): the model's
name, its plural name and the owner field of each owner rule must be GraphQL
names; then the fields are walked depth first in declaration order
(`ModelSchema.checksOf`). For each field the walk checks its name, then its
belongs-to target, and for a custom-type field that the type is not already on
the path of types entered, then that it is stored; only then does it descend
into the stored type's fields, one level down. The walk descends only into
types that are stored and new on the path, so every path it enters is a list
of distinct stored keys and the walk ends: the measure is the number of stored
keys not on the path (`ModelSchema.unentered`).

Validation answers with the fault of the first failing check
(`ModelSchema.validate_eq_verdict`); its depth budget never runs out before
the walk does. It succeeds exactly when the schema is `Valid`: the names are
GraphQL names, and every field reached from the model's fields by entering
custom types (`ModelSchema.Reaches`) has GraphQL names, and a custom type that
is stored and not already on the path that reached it. Main statement:
`ModelSchema.validate_spec`.
-/
namespace ModelSync

/-- A failure short-circuits the rest of a computation. -/
@[simp] theorem Except.error_bind {ε α β : Type} (e : ε) (k : α → Except ε β) :
    (Except.error e >>= k) = .error e := rfl

namespace ModelSchema

/-- A check validation makes, with the path of custom types entered when it
is made, the innermost first. -/
inductive Check where
  /-- The text must be a GraphQL name. -/
  | name (path : List String) (text : String)
  /-- The custom type must not be on the path already. -/
  | cycle (path : List String) (typeName : String)
  /-- The custom type must be stored in the schema. -/
  | resolve (path : List String) (typeName : String)
  deriving DecidableEq, Repr

/-- The path of custom types entered when the check is made. -/
def Check.path : Check → List String
  | .name path _ | .cycle path _ | .resolve path _ => path

/-- The field a check is made for: a name check for its name or its target,
a cycle or resolution check for its custom type. -/
def Check.About (f : ModelField) : Check → Prop
  | .name _ text => text = f.name ∨ f.targetName? = some text
  | .cycle _ typeName | .resolve _ typeName => f.fieldType = .customType typeName

/-- The error a failing check reports, if it fails. -/
def checkFault (s : ModelSchema) : Check → Option BuildError
  | .name _ text => if isGraphQLName text then none else some (s.nameError text)
  | .cycle path typeName =>
    if typeName ∈ path then
      some (.schemaIntrospection s.name ("custom type '" ++ typeName ++ "' contains itself"))
    else none
  | .resolve _ typeName =>
    if (s.customType? typeName).isSome then none
    else some (.schemaIntrospection s.name ("unknown custom type '" ++ typeName ++ "'"))

/-- The number of stored types not on the path. -/
def unentered (s : ModelSchema) (path : List String) : Nat :=
  (s.customTypes.keys.filter fun k => k ∉ path).length

/-- Entering a stored type that is new on the path leaves fewer types to enter. -/
theorem unentered_cons_lt {s : ModelSchema} {path : List String} {typeName : String}
    {custom : CustomType} (fresh : typeName ∉ path) (stored : s.customType? typeName = some custom) :
    s.unentered (typeName :: path) < s.unentered path := by
  have key : typeName ∈ s.customTypes.keys := mem_keys_of_customType? (by simp [stored])
  have split : (s.customTypes.keys.filter fun k => k ∉ typeName :: path) =
      (s.customTypes.keys.filter fun k => k ∉ path).filter fun k => k ≠ typeName := by
    rw [List.filter_filter]
    congr 1
    funext k
    simp
  unfold unentered
  rw [split]
  exact List.length_filter_lt_length_iff_exists.mpr
    ⟨typeName, List.mem_filter.mpr ⟨key, by simpa using fresh⟩, by simp⟩

/-- The checks of one field at a path, before the walk descends below it. -/
def ownChecks (path : List String) (f : ModelField) : List Check :=
  .name path f.name :: (f.targetName?.map (.name path)).toList ++
    match f.fieldType with
    | .customType typeName => [.cycle path typeName, .resolve path typeName]
    | _ => []

/-- The checks of a level of fields at a path, in the order validation makes
them: each field's own checks, then the checks of the level below it when
its custom type is new on the path and stored, then the next field. -/
def checksOf (s : ModelSchema) (path : List String) : List ModelField → List Check
  | [] => []
  | f :: rest =>
    ownChecks path f ++
      (match f.fieldType with
        | .customType typeName =>
          if _ : typeName ∈ path then [] else
            match _ : s.customType? typeName with
            | none => []
            | some custom => s.checksOf (typeName :: path) custom.fields
        | _ => []) ++
      s.checksOf path rest
termination_by fields => (s.unentered path, fields)
decreasing_by
  · exact Prod.Lex.left _ _ (unentered_cons_lt ‹_› ‹_›)
  · exact Prod.Lex.right _ (by simp only [List.cons.sizeOf_spec]; omega)

/-- The checks below a field at a path: those of the level of its custom
type's fields, when the type is new on the path and stored. -/
def checksBelow (s : ModelSchema) (path : List String) (f : ModelField) : List Check :=
  match f.fieldType with
  | .customType typeName =>
    if typeName ∈ path then [] else
      match s.customType? typeName with
      | none => []
      | some custom => s.checksOf (typeName :: path) custom.fields
  | _ => []

/-- Every check of a schema in validation order: the model's name, its plural
name, the owner field of each owner rule, then the walk of its fields. -/
def checks (s : ModelSchema) : List Check :=
  .name [] s.name :: .name [] s.plural :: s.ownerRules.map (fun rule => .name [] rule.ownerField) ++
    s.checksOf [] s.fields

/-- The answer to a sequence of checks: the fault of the first failing one. -/
def verdict (s : ModelSchema) (checks : List Check) : Except BuildError Unit :=
  match checks.findSome? s.checkFault with
  | some e => .error e
  | none => .ok ()

/-- The fields reached from the model's fields by entering custom types, each
with the path of types entered to reach it, the innermost first. A custom-type
field, whatever its association, leads to the fields stored under the type's
key; on a cycle the paths grow without end. -/
inductive Reaches (s : ModelSchema) : List String → ModelField → Prop
  | top {f : ModelField} : f ∈ s.fields → Reaches s [] f
  | enter {path : List String} {f g : ModelField} {typeName : String} {custom : CustomType} :
      Reaches s path f → f.fieldType = .customType typeName → s.customType? typeName = some custom →
      g ∈ custom.fields → Reaches s (typeName :: path) g

/-- A schema that can be turned into documents. -/
structure Valid (s : ModelSchema) : Prop where
  name : isGraphQLName s.name = true
  plural : isGraphQLName s.plural = true
  ownerFields : ∀ rule ∈ s.ownerRules, isGraphQLName rule.ownerField = true
  /-- Every reached field has a GraphQL name. -/
  fieldNames : ∀ path f, s.Reaches path f → isGraphQLName f.name = true
  /-- Every reached belongs-to field names its target with a GraphQL name. -/
  targets : ∀ path f target, s.Reaches path f → f.targetName? = some target →
    isGraphQLName target = true
  /-- No reached custom type is reached again from inside itself. -/
  acyclic : ∀ path f typeName, s.Reaches path f → f.fieldType = .customType typeName →
    typeName ∉ path
  /-- Every reached custom type is stored. -/
  resolved : ∀ path f typeName, s.Reaches path f → f.fieldType = .customType typeName →
    (s.customType? typeName).isSome


variable {s : ModelSchema}

@[simp] theorem checksOf_nil (path : List String) : s.checksOf path [] = [] := by
  rw [checksOf]

theorem checksOf_cons (path : List String) (f : ModelField) (rest : List ModelField) :
    s.checksOf path (f :: rest) = ownChecks path f ++ s.checksBelow path f ++ s.checksOf path rest := by
  rw [checksOf, checksBelow]
  split
  · next typeName _ =>
    by_cases fresh : typeName ∈ path
    · simp [fresh]
    · simp only [fresh, dite_false, if_false]
      split <;> simp_all
  · rfl

@[simp] theorem verdict_nil : s.verdict [] = pure () := rfl

theorem verdict_append (first rest : List Check) :
    s.verdict (first ++ rest) = (s.verdict first >>= fun _ => s.verdict rest) := by
  unfold verdict
  rw [List.findSome?_append]
  cases first.findSome? s.checkFault <;> cases rest.findSome? s.checkFault <;> rfl

theorem checkName_eq_verdict (path : List String) (text : String) :
    s.checkName text = s.verdict [.name path text] := by
  unfold checkName verdict
  by_cases named : isGraphQLName text <;> simp [checkFault, named]

theorem verdict_cons (c : Check) (rest : List Check) :
    s.verdict (c :: rest) = (s.verdict [c] >>= fun _ => s.verdict rest) :=
  verdict_append [c] rest

/-- With budget for every stored type not yet on the path, the check of a level
answers as the unbounded walk's first failing check: the budget never runs out
first. -/
theorem checkFields_eq_verdict {budget : Nat} {path : List String} {fields : List ModelField}
    (enough : s.unentered path ≤ budget) :
    s.checkFields budget path fields = s.verdict (s.checksOf path fields) := by
  induction path, fields using checksOf.induct s generalizing budget with
  | case1 path => rw [checksOf_nil, verdict_nil, checkFields]; rfl
  | case2 path f rest below restIH =>
    rw [checksOf_cons, ownChecks, verdict_append, verdict_append, verdict_append, verdict_cons,
      ← restIH enough, checkFields, ← checkName_eq_verdict path]
    simp only [bind_assoc]
    congr 1
    funext
    -- the target is checked next, when there is one
    split
    case' h_1 target found =>
      rw [found, Option.map_some, Option.toList_some, ← checkName_eq_verdict path]
      congr 1
      funext
    case' h_2 absent =>
      rw [absent, Option.map_none, Option.toList_none, verdict_nil, pure_bind]
    -- then the type: a custom type is looked for on the path, then in the schema, then entered
    all_goals
      split
      next typeName type =>
        simp only [checksBelow, type]
        by_cases fresh : typeName ∈ path
        · have fails : s.verdict [.cycle path typeName, .resolve path typeName] =
              .error (.schemaIntrospection s.name ("custom type '" ++ typeName ++ "' contains itself")) := by
            simp [verdict, checkFault, fresh]
          simp [fresh, fails, throw, throwThe, MonadExceptOf.throw]
        · cases stored : s.customType? typeName with
          | none =>
            have fails : s.verdict [.cycle path typeName, .resolve path typeName] =
                .error (.schemaIntrospection s.name ("unknown custom type '" ++ typeName ++ "'")) := by
              simp [verdict, checkFault, fresh, stored]
            simp [fresh, fails, throw, throwThe, MonadExceptOf.throw]
          | some custom =>
            have passes : s.verdict [.cycle path typeName, .resolve path typeName] = pure () := by
              simp [verdict, checkFault, fresh, stored]; rfl
            -- a stored type new on the path leaves budget to enter it
            have fewer := unentered_cons_lt fresh stored
            obtain ⟨b, rfl, bound⟩ : ∃ b, budget = b + 1 ∧ s.unentered (typeName :: path) ≤ b :=
              ⟨budget - 1, by omega, by omega⟩
            simp [fresh, passes, below typeName fresh custom stored bound]
      next notCustom =>
        -- a field of any other type has no checks of its type and nothing below it
        simp [checksBelow]

theorem unentered_nil : s.unentered [] = s.customTypes.size := by
  simp [unentered, Dictionary.keys, Dictionary.size]

/-- Validation answers with the first failing check, in validation order. -/
theorem validate_eq_verdict : s.validate = s.verdict s.checks := by
  have fields : s.checkFields (s.customTypes.size + 1) [] s.fields = s.verdict (s.checksOf [] s.fields) :=
    checkFields_eq_verdict (by rw [unentered_nil]; omega)
  unfold validate checks
  rw [verdict_append, verdict_cons (.name [] s.name), verdict_cons (.name [] s.plural),
    ← checkName_eq_verdict [], ← checkName_eq_verdict [], ← fields]
  simp only [bind_assoc]
  congr 1; funext
  congr 1; funext
  congr 1
  -- the owner fields are checked one rule at a time
  induction s.ownerRules with
  | nil => rfl
  | cons rule rules ih =>
    simp only [List.forIn_cons, List.map_cons, bind_assoc, pure_bind]
    rw [verdict_cons, ← checkName_eq_verdict [], ← ih]

theorem verdict_eq_ok_iff {checks : List Check} :
    s.verdict checks = .ok () ↔ ∀ c ∈ checks, s.checkFault c = none := by
  unfold verdict
  rw [← List.findSome?_eq_none_iff]
  cases checks.findSome? s.checkFault <;> simp

theorem verdict_eq_error_iff {checks : List Check} {e : BuildError} :
    s.verdict checks = .error e ↔ checks.findSome? s.checkFault = some e := by
  unfold verdict
  cases checks.findSome? s.checkFault <;> simp

/-! ### The walk and the reached fields -/

theorem mem_ownChecks {path : List String} {f : ModelField} {c : Check} (mem : c ∈ ownChecks path f) :
    c.path = path ∧ c.About f := by
  simp only [ownChecks, List.cons_append, List.mem_cons, List.mem_append, Option.mem_toList,
    Option.map_eq_some_iff] at mem
  rcases mem with rfl | ⟨target, found, rfl⟩ | typed
  · exact ⟨rfl, .inl rfl⟩
  · exact ⟨rfl, .inr found⟩
  · split at typed
    next typeName type =>
      simp only [List.mem_cons, List.not_mem_nil, or_false] at typed
      rcases typed with rfl | rfl <;> exact ⟨rfl, type⟩
    next => cases typed

theorem checksBelow_of_customType {path : List String} {f : ModelField} {typeName : String}
    {custom : CustomType} (type : f.fieldType = .customType typeName) (fresh : typeName ∉ path)
    (stored : s.customType? typeName = some custom) :
    s.checksBelow path f = s.checksOf (typeName :: path) custom.fields := by
  simp [checksBelow, type, fresh, stored]

theorem mem_checksBelow {path : List String} {f : ModelField} {c : Check}
    (mem : c ∈ s.checksBelow path f) :
    ∃ typeName custom, f.fieldType = .customType typeName ∧ typeName ∉ path ∧
      s.customType? typeName = some custom ∧ c ∈ s.checksOf (typeName :: path) custom.fields := by
  unfold checksBelow at mem
  split at mem
  next typeName type =>
    by_cases fresh : typeName ∈ path
    · simp [fresh] at mem
    · cases stored : s.customType? typeName with
      | none => simp [fresh, stored] at mem
      | some custom => exact ⟨typeName, custom, type, fresh, stored, by simpa [fresh, stored] using mem⟩
  next => cases mem

/-- Every check of the walk is made for a field reached at the check's path. -/
theorem about_of_mem_checksOf {path : List String} {fields : List ModelField}
    (reached : ∀ f ∈ fields, s.Reaches path f) {c : Check} (mem : c ∈ s.checksOf path fields) :
    ∃ f, s.Reaches c.path f ∧ c.About f := by
  induction path, fields using checksOf.induct s with
  | case1 path => simp at mem
  | case2 path f rest below restIH =>
    rw [checksOf_cons, List.mem_append, List.mem_append] at mem
    rcases mem with (own | deeper) | later
    · obtain ⟨same, about⟩ := mem_ownChecks own
      exact ⟨f, same ▸ reached f (List.mem_cons_self ..), about⟩
    · obtain ⟨typeName, custom, type, fresh, stored, inner⟩ := mem_checksBelow deeper
      exact below typeName fresh custom stored
        (fun g g_mem => .enter (reached f (List.mem_cons_self ..)) type stored g_mem) inner
    · exact restIH (fun g g_mem => reached g (List.mem_cons_of_mem f g_mem)) later

/-- The walk of a level makes the own checks of each of its fields, and the
checks below it. -/
theorem mem_checksOf_of_mem {path : List String} {fields : List ModelField} {f : ModelField}
    (field : f ∈ fields) {c : Check} (mem : c ∈ ownChecks path f ++ s.checksBelow path f) :
    c ∈ s.checksOf path fields := by
  induction fields with
  | nil => cases field
  | cons g rest ih =>
    rw [checksOf_cons, List.mem_append]
    rcases List.mem_cons.mp field with rfl | later
    · exact .inl mem
    · exact .inr (ih later)

/-- On a walk whose checks all pass, every reached field lies on a level the
walk goes through. -/
theorem walked_of_reaches {path : List String} {f : ModelField} (reaches : s.Reaches path f)
    (passes : ∀ c ∈ s.checksOf [] s.fields, s.checkFault c = none) :
    ∃ fields, f ∈ fields ∧ ∀ c ∈ s.checksOf path fields, c ∈ s.checksOf [] s.fields := by
  induction reaches with
  | top field => exact ⟨s.fields, field, fun c mem => mem⟩
  | @enter path f g typeName custom _ type stored entered ih =>
    obtain ⟨fields, field, walked⟩ := ih
    -- the cycle check of the entering field passed, so its type was new on the path
    have cycle : Check.cycle path typeName ∈ ownChecks path f := by
      simp [ownChecks, type]
    have fresh : typeName ∉ path := by
      have := passes _ (walked _ (mem_checksOf_of_mem field (List.mem_append_left _ cycle)))
      simpa [checkFault] using this
    refine ⟨custom.fields, entered, fun c mem => walked c (mem_checksOf_of_mem field ?_)⟩
    rw [checksBelow_of_customType type fresh stored]
    exact List.mem_append_right _ mem

/-- The walk enters only stored types new on the path: every path it makes a
check at is a list of distinct stored types. -/
theorem path_of_mem_checksOf {path : List String} {fields : List ModelField}
    (distinct : path.Nodup) (stored : ∀ k ∈ path, (s.customType? k).isSome) {c : Check}
    (mem : c ∈ s.checksOf path fields) :
    c.path.Nodup ∧ ∀ k ∈ c.path, (s.customType? k).isSome := by
  induction path, fields using checksOf.induct s with
  | case1 path => simp at mem
  | case2 path f rest below restIH =>
    rw [checksOf_cons, List.mem_append, List.mem_append] at mem
    rcases mem with (own | deeper) | later
    · rw [(mem_ownChecks own).1]
      exact ⟨distinct, stored⟩
    · obtain ⟨typeName, custom, -, fresh, found, inner⟩ := mem_checksBelow deeper
      refine below typeName fresh custom found (List.nodup_cons.mpr ⟨fresh, distinct⟩) ?_ inner
      intro k entered
      rcases List.mem_cons.mp entered with rfl | onPath
      · simp [found]
      · exact stored k onPath
    · exact restIH distinct stored later

/-- A check passes when it is made for a field of a valid schema, reached at
the check's path. -/
theorem checkFault_of_about (valid : s.Valid) {c : Check} {f : ModelField}
    (reaches : s.Reaches c.path f) (about : c.About f) : s.checkFault c = none := by
  cases c with
  | name path text =>
    have named : isGraphQLName text = true := by
      rcases about with rfl | target
      · exact valid.fieldNames _ _ reaches
      · exact valid.targets _ _ _ reaches target
    simp [checkFault, named]
  | cycle path typeName => simpa [checkFault, Check.path] using valid.acyclic _ _ _ reaches about
  | resolve path typeName => simp [checkFault, valid.resolved _ _ _ reaches about]

/-- A valid schema passes every check validation makes. -/
theorem Valid.passes (valid : s.Valid) : ∀ c ∈ s.checks, s.checkFault c = none := by
  have reached : ∀ f ∈ s.fields, s.Reaches [] f := fun f field => .top field
  intro c mem
  simp only [checks, List.cons_append, List.mem_cons, List.mem_append, List.mem_map] at mem
  rcases mem with rfl | rfl | ⟨rule, owner, rfl⟩ | walked
  · simp [checkFault, valid.name]
  · simp [checkFault, valid.plural]
  · simp [checkFault, valid.ownerFields rule owner]
  · obtain ⟨f, reaches, about⟩ := about_of_mem_checksOf reached walked
    exact checkFault_of_about valid reaches about

/-- A schema that passes every check validation makes is valid. -/
theorem valid_of_passes (passes : ∀ c ∈ s.checks, s.checkFault c = none) : s.Valid := by
  have named : ∀ path text, Check.name path text ∈ s.checks → isGraphQLName text = true := by
    intro path text mem
    simpa [checkFault] using passes _ mem
  have walk : ∀ c ∈ s.checksOf [] s.fields, s.checkFault c = none :=
    fun c mem => passes c (by simp [checks, mem])
  -- a reached field's own checks are among the walk's, so they passed
  have own : ∀ path f, s.Reaches path f → ∀ c ∈ ownChecks path f, s.checkFault c = none := by
    intro path f reaches c mem
    obtain ⟨fields, field, walked⟩ := walked_of_reaches reaches walk
    exact walk c (walked c (mem_checksOf_of_mem field (List.mem_append_left _ mem)))
  have ownerField : ∀ rule ∈ s.ownerRules, Check.name [] rule.ownerField ∈ s.checks := by
    intro rule owner
    simp only [checks, List.cons_append, List.mem_cons, List.mem_append, List.mem_map]
    exact .inr (.inr (.inl ⟨rule, owner, rfl⟩))
  refine ⟨named [] _ (by simp [checks]), named [] _ (by simp [checks]),
    fun rule owner => named [] _ (ownerField rule owner), ?_, ?_, ?_, ?_⟩
  · intro path f reaches
    simpa [checkFault] using own path f reaches (.name path f.name) (by simp [ownChecks])
  · intro path f target reaches found
    simpa [checkFault] using own path f reaches (.name path target) (by simp [ownChecks, found])
  · intro path f typeName reaches type
    simpa [checkFault] using own path f reaches (.cycle path typeName) (by simp [ownChecks, type])
  · intro path f typeName reaches type
    have passed := own path f reaches (.resolve path typeName) (by simp [ownChecks, type])
    simp only [checkFault] at passed
    split at passed
    · assumption
    · cases passed

/-- A schema is valid exactly when every check validation makes passes. -/
theorem valid_iff_passes : s.Valid ↔ ∀ c ∈ s.checks, s.checkFault c = none :=
  ⟨Valid.passes, valid_of_passes⟩

/-- Schema validation. It succeeds exactly when the schema is valid: its name,
its plural name and every owner rule's owner field are GraphQL names, and every
field reached from the model's fields by entering custom types (by their keys,
has-many fields included) has a GraphQL name and target, and a custom type that
is stored and not already on the path that reached it. It fails exactly with
the fault of the first failing check in validation order: name, plural name,
owner fields, then the fields depth first in declaration order, each field's
name before its target, a custom type's cycle check before its lookup, both
before its fields. Every check is made at a path of distinct stored types, so
the walk goes at most as many levels deep as there are stored types; and every
check of the walk is made for a field reached from the model, so types the
model does not reach are never looked at. -/
theorem validate_spec (s : ModelSchema) :
    (s.validate = .ok () ↔ s.Valid) ∧
    (∀ e, s.validate = .error e ↔ s.checks.findSome? s.checkFault = some e) ∧
    (∀ c ∈ s.checks, c.path.Nodup ∧ c.path.length ≤ s.customTypes.size) ∧
    (∀ c ∈ s.checksOf [] s.fields, ∃ f, s.Reaches c.path f ∧ c.About f) := by
  refine ⟨?_, fun e => ?_, fun c mem => ?_, fun c mem => ?_⟩
  · rw [validate_eq_verdict, verdict_eq_ok_iff, valid_iff_passes]
  · rw [validate_eq_verdict, verdict_eq_error_iff]
  · -- the model's own names are checked at the empty path, the fields along the walk
    have walk : ∀ c ∈ s.checksOf [] s.fields, c.path.Nodup ∧ ∀ k ∈ c.path, (s.customType? k).isSome :=
      fun c mem => path_of_mem_checksOf List.nodup_nil (by simp) mem
    simp only [checks, List.cons_append, List.mem_cons, List.mem_append, List.mem_map] at mem
    rcases mem with rfl | rfl | ⟨rule, -, rfl⟩ | walked
    · simp [Check.path]
    · simp [Check.path]
    · simp [Check.path]
    · obtain ⟨distinct, stored⟩ := walk c walked
      exact ⟨distinct, length_le_size distinct stored⟩
  · exact about_of_mem_checksOf (fun f field => .top field) mem

end ModelSchema
end ModelSync
