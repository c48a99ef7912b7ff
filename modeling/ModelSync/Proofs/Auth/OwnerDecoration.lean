import ModelSync.Proofs.Request.Variables
/-!
Owner decoration.

The owner-claim decorator leaves a request alone unless it is a subscription
made with a user identity on a model with an owner rule. Past that gate it
scans the group rules in order, reading each rule's group claim from the
caller's claims source. The scan stops at the first rule whose claim lists
one of the rule's groups, and the request is sent as it is; it stops too at
the first group claim that cannot be read, and the decoration fails with the
source's error, also when a later group rule would list the caller
(`Decorator.decorate_fails_before_listed_group`). A caller whom every group
rule passes over has each owner rule, in order, bind its owner field to the
caller's identity, which must be a non-empty string claim; the first error of
the source, or else the first missing identity, fails the decoration.

Decoration only binds owner fields: the operation, the selection and every
other variable stay as they were, and decorating a decorated request again
changes nothing. Main statement: `Decorator.decorate_ownerClaims_spec`.
-/
namespace ModelSync

/-- The request with each owner field bound, in order, to its owner. -/
def Request.bindOwners (r : Request) (owners : List (String × String)) : Request :=
  owners.foldl (fun r owner => r.withVariable owner.1 "String!" (.string owner.2)) r

/-- The schema's group rules, in order. -/
def ModelSchema.groupRules (s : ModelSchema) : List AuthRule := s.authRules.filter (·.strategy == .group)

theorem ModelSchema.hasOwnerRule_eq_false_iff (s : ModelSchema) : s.hasOwnerRule = false ↔ s.ownerRules = [] := by
  simp [hasOwnerRule, ownerRules, List.filter_eq_nil_iff]

namespace Request

variable (r : Request) (owners : List (String × String))

/-- Binding the owners inserts their types and their values, one after another. -/
theorem bindOwners_eq : r.bindOwners owners =
    { r with
      types := (owners.map fun owner => (owner.1, "String!")).foldl (fun d kv => d.insert kv.1 kv.2) r.types
      values := (owners.map fun owner => (owner.1, JsonValue.string owner.2)).foldl
        (fun d kv => d.insert kv.1 kv.2) r.values } := by
  induction owners generalizing r with
  | nil => rfl
  | cons owner rest ih =>
    simp only [bindOwners, List.foldl_cons, List.map_cons] at ih ⊢
    rw [ih]
    rfl

/-- Binding the same owners twice over is binding them once. -/
theorem bindOwners_bindOwners : (r.bindOwners owners).bindOwners owners = r.bindOwners owners := by
  rw [bindOwners_eq r, bindOwners_eq]
  simp only [Dictionary.foldl_insert_idem]

variable {r owners}

/-- Binding owners leaves the type and the value of every other name as they were. -/
theorem bindOwners_frame {name : String} (absent : name ∉ owners.map Prod.fst) :
    (r.bindOwners owners).typeOf? name = r.typeOf? name ∧ (r.bindOwners owners).valueOf? name = r.valueOf? name := by
  induction owners generalizing r with
  | nil => exact ⟨rfl, rfl⟩
  | cons owner rest ih =>
    have other : name ≠ owner.1 := fun same => absent (same ▸ List.mem_cons_self)
    obtain ⟨types, values⟩ := ih (r := r.withVariable owner.1 "String!" (.string owner.2))
      fun mem => absent (List.mem_cons_of_mem _ mem)
    -- the first owner binds another name, and the rest keep what it left
    exact ⟨by rw [bindOwners, List.foldl_cons, ← bindOwners, types, typeOf?_withVariable, if_neg other],
      by rw [bindOwners, List.foldl_cons, ← bindOwners, values, valueOf?_withVariable, if_neg other]⟩

end Request

namespace Decorator

variable {claims : ClaimSource} {t : AuthType}

/-- One step of the read-group scan: a caller found in a group stays found. -/
def readGroupStep (claims : ClaimSource) (t : AuthType) (found : Bool) (rule : AuthRule) :
    Except DecorationError Bool :=
  if found then pure true
  else do
    match ← claims.claim t rule.groupClaim with
    | none => pure false
    | some value => pure ((callerGroups value).any rule.groups.contains)

theorem inReadGroup_eq (schema : ModelSchema) (claims : ClaimSource) (t : AuthType) :
    inReadGroup schema claims t = schema.groupRules.foldlM (readGroupStep claims t) false := rfl

/-- A group claim lists the caller for a rule when one of the rule's groups is
a string item of the claim's list or a blank-separated word of its string. -/
def Lists (rule : AuthRule) (value : JsonValue) : Prop :=
  ∃ group ∈ rule.groups, (∃ items, value = .array items ∧ .string group ∈ items) ∨
    (∃ text, value = .string text ∧ group ∈ Text.blankSeparated text)

/-- A group rule passes the caller over: its group claim is read, and is
absent or does not list the caller. -/
def PassesOver (claims : ClaimSource) (t : AuthType) (rule : AuthRule) : Prop :=
  ∃ value?, claims.claim t rule.groupClaim = .ok value? ∧ ∀ value, value? = some value → ¬ Lists rule value

theorem any_callerGroups_iff (rule : AuthRule) (value : JsonValue) :
    (callerGroups value).any rule.groups.contains = true ↔ Lists rule value := by
  cases value with
  | array items =>
    simp only [Lists, callerGroups, List.any_eq_true, List.contains_iff_mem, List.mem_filterMap]
    constructor
    · rintro ⟨group, ⟨item, mem, named⟩, listed⟩
      cases item <;> simp at named
      subst named
      exact ⟨_, listed, .inl ⟨items, rfl, mem⟩⟩
    · rintro ⟨group, listed, ⟨items', same, mem⟩ | ⟨text, different, -⟩⟩
      · cases same
        exact ⟨group, ⟨.string group, mem, rfl⟩, listed⟩
      · cases different
  | string text => simp [Lists, callerGroups, and_comm]
  | null | bool _ | number _ | object _ => simp [Lists, callerGroups]

/-- An unfound caller reads the rule's group claim and checks it. -/
theorem readGroupStep_false (rule : AuthRule) : readGroupStep claims t false rule =
    (claims.claim t rule.groupClaim).map fun value? =>
      value?.any fun value => (callerGroups value).any rule.groups.contains := by
  unfold readGroupStep
  cases claims.claim t rule.groupClaim with
  | error e => rfl
  | ok value? => cases value? <;> rfl

theorem foldlM_readGroupStep_true : ∀ rules : List AuthRule,
    rules.foldlM (readGroupStep claims t) true = .ok true
  | [] => rfl
  | _ :: rules => foldlM_readGroupStep_true rules

/-- Group rules that pass the caller over leave the scan as it was. -/
theorem foldlM_readGroupStep_passed {before : List AuthRule} (passed : ∀ rule ∈ before, PassesOver claims t rule)
    (rest : List AuthRule) :
    (before ++ rest).foldlM (readGroupStep claims t) false = rest.foldlM (readGroupStep claims t) false := by
  induction before with
  | nil => rfl
  | cons rule before ih =>
    obtain ⟨value?, read, unlisted⟩ := passed rule List.mem_cons_self
    have stays : (value?.any fun value => (callerGroups value).any rule.groups.contains) = false := by
      cases value? with
      | none => rfl
      | some value =>
        cases listed : (callerGroups value).any rule.groups.contains with
        | false => simpa using listed
        | true => exact absurd ((any_callerGroups_iff rule value).mp listed) (unlisted value rfl)
    rw [List.cons_append, List.foldlM_cons, readGroupStep_false, read]
    simp only [Except.map, Except.ok_bind, stays]
    exact ih fun other mem => passed other (List.mem_cons_of_mem _ mem)

/-- The scan finds a caller listed by a group rule that every earlier group
rule passed over. -/
theorem foldlM_readGroupStep_listed {before after : List AuthRule} {rule : AuthRule}
    (passed : ∀ other ∈ before, PassesOver claims t other) {value : JsonValue}
    (read : claims.claim t rule.groupClaim = .ok (some value)) (listed : Lists rule value) :
    (before ++ rule :: after).foldlM (readGroupStep claims t) false = .ok true := by
  have found : (callerGroups value).any rule.groups.contains = true := (any_callerGroups_iff rule value).mpr listed
  rw [foldlM_readGroupStep_passed passed, List.foldlM_cons, readGroupStep_false, read]
  simp only [Except.map, Except.ok_bind, Option.any_some, found]
  exact foldlM_readGroupStep_true after

/-- The scan fails with the error of a group claim that cannot be read after
every earlier group rule passed the caller over. -/
theorem foldlM_readGroupStep_error {before after : List AuthRule} {rule : AuthRule}
    (passed : ∀ other ∈ before, PassesOver claims t other) {e : DecorationError}
    (read : claims.claim t rule.groupClaim = .error e) :
    (before ++ rule :: after).foldlM (readGroupStep claims t) false = .error e := by
  rw [foldlM_readGroupStep_passed passed, List.foldlM_cons, readGroupStep_false, read]
  rfl

/-- Where every group claim can be read, a caller listed by a group rule is
found: the group rules before the first that lists the caller pass it over. -/
theorem foldlM_readGroupStep_of_readable {rules : List AuthRule}
    (readable : ∀ rule ∈ rules, ∃ value?, claims.claim t rule.groupClaim = .ok value?)
    (listed : ∃ rule ∈ rules, ∃ value, claims.claim t rule.groupClaim = .ok (some value) ∧ Lists rule value) :
    rules.foldlM (readGroupStep claims t) false = .ok true := by
  induction rules with
  | nil =>
    obtain ⟨rule, mem, -⟩ := listed
    cases mem
  | cons rule rules ih =>
    obtain ⟨value?, read⟩ := readable rule List.mem_cons_self
    by_cases here : ∃ value, value? = some value ∧ Lists rule value
    · obtain ⟨value, rfl, lists⟩ := here
      show ([] ++ rule :: rules).foldlM _ false = _
      exact foldlM_readGroupStep_listed (by simp) read lists
    · -- the rule passes the caller over, so a later rule lists it
      have passes : PassesOver claims t rule := ⟨value?, read, fun value some lists => here ⟨value, some, lists⟩⟩
      obtain ⟨other, mem, value, readOther, lists⟩ := listed
      have later : other ∈ rules := by
        rcases List.mem_cons.mp mem with same | later
        · subst same
          rw [read] at readOther
          cases readOther
          exact absurd ⟨value, rfl, lists⟩ here
        · exact later
      rw [← List.singleton_append, foldlM_readGroupStep_passed (by simpa using passes)]
      exact ih (fun r mem => readable r (List.mem_cons_of_mem _ mem)) ⟨other, later, value, readOther, lists⟩

/-- An owner rule binds the identity claim when it is a non-empty string. -/
theorem ownerValue_eq_ok_iff (rule : AuthRule) (owner : String) :
    ownerValue claims t rule = .ok owner ↔
      claims.claim t rule.identityClaim = .ok (some (.string owner)) ∧ owner ≠ "" := by
  unfold ownerValue
  cases claims.claim t rule.identityClaim with
  | error e => simp [bind, Except.bind]
  | ok value? =>
    cases value? with
    | none => simp [bind, Except.bind, throw, throwThe, MonadExceptOf.throw]
    | some value =>
      cases value with
      | string text =>
        by_cases empty : text = ""
        · subst empty
          simp [bind, Except.bind, throw, throwThe, MonadExceptOf.throw]
        · simp [bind, Except.bind, pure, Except.pure, empty, String.isEmpty_iff]
          rintro rfl
          exact empty
      | _ => simp [bind, Except.bind, throw, throwThe, MonadExceptOf.throw]

/-- An owner rule fails with the claims source's error, or, when the identity
claim is read but is not a non-empty string, with a missing claim. -/
theorem ownerValue_eq_error_iff (rule : AuthRule) (e : DecorationError) :
    ownerValue claims t rule = .error e ↔ claims.claim t rule.identityClaim = .error e ∨
      (e = .missingClaim t rule.identityClaim ∧ ∃ value?, claims.claim t rule.identityClaim = .ok value? ∧
        ∀ owner, value? = some (.string owner) → owner = "") := by
  unfold ownerValue
  cases claims.claim t rule.identityClaim with
  | error e' => simp [bind, Except.bind]
  | ok value? =>
    cases value? with
    | none => simp [bind, Except.bind, throw, throwThe, MonadExceptOf.throw, eq_comm]
    | some value =>
      cases value with
      | string text =>
        by_cases empty : text = ""
        · subst empty
          simp [bind, Except.bind, throw, throwThe, MonadExceptOf.throw]
          exact eq_comm
        · simp [bind, Except.bind, pure, Except.pure, empty, String.isEmpty_iff]
      | _ => simp [bind, Except.bind, throw, throwThe, MonadExceptOf.throw, eq_comm]

/-- Binding the owner rules one after another: each reads its identity, the
first failure is the result, and otherwise every owner field is bound. -/
theorem foldlM_bindOwner (r : Request) (rules : List AuthRule) :
    rules.foldlM (fun r rule => do
        let owner ← ownerValue claims t rule
        pure (r.withVariable rule.ownerField "String!" (.string owner))) r =
      (rules.mapM (ownerValue claims t)).map fun owners =>
        r.bindOwners ((rules.map AuthRule.ownerField).zip owners) := by
  induction rules generalizing r with
  | nil => rfl
  | cons rule rules ih =>
    rw [List.foldlM_cons, List.mapM_cons]
    cases ownerValue claims t rule with
    | error e => rfl
    | ok owner =>
      simp only [Except.ok_bind, pure_bind]
      rw [ih]
      cases rules.mapM (ownerValue claims t) <;> rfl

variable {schema : ModelSchema} {r : Request}

/-- Requests outside the gate are left as they are. -/
theorem decorate_ownerClaims_of_untouched
    (untouched : r.operationType ≠ .subscription ∨ (t ≠ .userPools ∧ t ≠ .openidConnect) ∨
      schema.ownerRules = []) :
    (ownerClaims schema claims).decorate r t = .ok r := by
  have gate : (r.operationType != .subscription || !t.hasIdentity || !schema.hasOwnerRule) = true := by
    rcases untouched with other | ⟨notPools, notOidc⟩ | unowned
    · simp [other]
    · cases t <;> simp_all [AuthType.hasIdentity]
    · simp [(schema.hasOwnerRule_eq_false_iff).mpr unowned]
  simp [decorate, gate]

/-- Past the gate the caller's groups are scanned, and a caller in no read
group has every owner field bound. -/
theorem decorate_ownerClaims_of_touched (subscription : r.operationType = .subscription)
    (identity : t = .userPools ∨ t = .openidConnect) (owned : schema.ownerRules ≠ []) :
    (ownerClaims schema claims).decorate r t = inReadGroup schema claims t >>= fun inGroup =>
      if inGroup then pure r
      else (schema.ownerRules.mapM (ownerValue claims t)).map fun owners =>
        r.bindOwners ((schema.ownerRules.map AuthRule.ownerField).zip owners) := by
  have gate : (r.operationType != .subscription || !t.hasIdentity || !schema.hasOwnerRule) = false := by
    have hasOwner : schema.hasOwnerRule = true := by
      rw [← Bool.not_eq_false, schema.hasOwnerRule_eq_false_iff]
      exact owned
    rcases identity with rfl | rfl <;> simp [subscription, hasOwner, AuthType.hasIdentity]
  simp only [decorate, gate, Bool.false_eq_true, ↓reduceIte]
  congr 1
  funext inGroup
  cases inGroup with
  | true => rfl
  | false => exact foldlM_bindOwner r schema.ownerRules

/-- A decorated request is the request itself, or, past the gate and outside
every read group, the request with every owner field bound. -/
theorem eq_of_decorate_ownerClaims {r' : Request}
    (decorated : (ownerClaims schema claims).decorate r t = .ok r') :
    r' = r ∨ (r.operationType = .subscription ∧ (t = .userPools ∨ t = .openidConnect) ∧
      schema.ownerRules ≠ [] ∧ inReadGroup schema claims t = .ok false ∧
      ∃ owners, schema.ownerRules.mapM (ownerValue claims t) = .ok owners ∧
        r' = r.bindOwners ((schema.ownerRules.map AuthRule.ownerField).zip owners)) := by
  by_cases touched : r.operationType = .subscription ∧ (t = .userPools ∨ t = .openidConnect) ∧
      schema.ownerRules ≠ []
  · obtain ⟨subscription, identity, owned⟩ := touched
    rw [decorate_ownerClaims_of_touched subscription identity owned] at decorated
    obtain ⟨inGroup, scanned, decorated⟩ := Except.bind_eq_ok decorated
    cases inGroup with
    | true =>
      simp only [↓reduceIte, pure, Except.pure, Except.ok.injEq] at decorated
      exact .inl decorated.symm
    | false =>
      cases read : schema.ownerRules.mapM (ownerValue claims t) with
      | error e => simp [read, Except.map] at decorated
      | ok owners =>
        simp only [read, Except.map, Bool.false_eq_true, ↓reduceIte, Except.ok.injEq] at decorated
        exact .inr ⟨subscription, identity, owned, scanned, owners, rfl, decorated.symm⟩
  · have untouched : r.operationType ≠ .subscription ∨ (t ≠ .userPools ∧ t ≠ .openidConnect) ∨
        schema.ownerRules = [] := by
      tauto
    rw [decorate_ownerClaims_of_untouched untouched] at decorated
    cases decorated
    exact .inl rfl

/-- Decoration changes no part of a request but the owner fields' variables. -/
theorem decorate_ownerClaims_frame {r' : Request}
    (decorated : (ownerClaims schema claims).decorate r t = .ok r') :
    r'.operationType = r.operationType ∧ r'.operationName = r.operationName ∧ r'.field = r.field ∧
      r'.modelName = r.modelName ∧ r'.selection = r.selection ∧
      ∀ name, name ∉ schema.ownerRules.map AuthRule.ownerField →
        r'.typeOf? name = r.typeOf? name ∧ r'.valueOf? name = r.valueOf? name := by
  rcases eq_of_decorate_ownerClaims decorated with rfl | ⟨-, -, -, -, owners, -, rfl⟩
  · exact ⟨rfl, rfl, rfl, rfl, rfl, fun _ _ => ⟨rfl, rfl⟩⟩
  · -- binding owners rewrites the two dictionaries and nothing else
    have kept := Request.bindOwners_eq r ((schema.ownerRules.map AuthRule.ownerField).zip owners)
    refine ⟨by rw [kept], by rw [kept], by rw [kept], by rw [kept], by rw [kept],
      fun name absent => Request.bindOwners_frame ?_⟩
    -- an owner is bound to an owner field
    intro mem
    obtain ⟨⟨field, owner⟩, bound, rfl⟩ := List.mem_map.mp mem
    exact absent (List.of_mem_zip bound).1

/-- Decorating a decorated request again changes nothing. -/
theorem decorate_ownerClaims_idem {r' : Request} (decorated : (ownerClaims schema claims).decorate r t = .ok r') :
    (ownerClaims schema claims).decorate r' t = .ok r' := by
  rcases eq_of_decorate_ownerClaims decorated with rfl | ⟨subscription, identity, owned, scanned, owners, read, rfl⟩
  · exact decorated
  · -- the scan and the identities read the claims alone, not the request
    have stillSubscription : (r.bindOwners ((schema.ownerRules.map AuthRule.ownerField).zip owners)).operationType =
        .subscription := by
      rw [Request.bindOwners_eq]
      exact subscription
    rw [decorate_ownerClaims_of_touched stillSubscription identity owned, scanned, Except.ok_bind]
    simp only [Bool.false_eq_true, ↓reduceIte, read, Except.map, Request.bindOwners_bindOwners]

/-- The owner-claim decorator, for any source of claims. A request that is
not a subscription, or made without a user identity, or on a model without an
owner rule, is left as it is. Otherwise the group rules are scanned in order:
at the first whose group claim lists the caller, after rules that passed the
caller over, the request is left as it is; at the first group claim that
cannot be read, after rules that passed the caller over, the decoration fails
with the source's error; and a caller passed over by every group rule has
each owner rule's identity read in order, the first failure failing the
decoration, and gets the request with each owner field bound in order to its
identity. With a source that reads every group claim, a caller listed by
some group rule is left as it is. An owner rule's identity is its identity
claim when that is a non-empty string, and otherwise the source's error or a
missing claim. The operation, the selection and every variable outside the
owner fields are kept, and decorating again changes nothing. -/
theorem decorate_ownerClaims_spec (s : ModelSchema) (c : ClaimSource) (r : Request) (t : AuthType) :
    ((r.operationType ≠ .subscription ∨ (t ≠ .userPools ∧ t ≠ .openidConnect) ∨ s.ownerRules = []) →
      (ownerClaims s c).decorate r t = .ok r) ∧
    (r.operationType = .subscription → (t = .userPools ∨ t = .openidConnect) → s.ownerRules ≠ [] →
      (∀ before rule after, s.groupRules = before ++ rule :: after → (∀ g ∈ before, PassesOver c t g) →
        (∀ value, c.claim t rule.groupClaim = .ok (some value) → Lists rule value →
          (ownerClaims s c).decorate r t = .ok r) ∧
        (∀ e, c.claim t rule.groupClaim = .error e → (ownerClaims s c).decorate r t = .error e)) ∧
      ((∀ g ∈ s.groupRules, PassesOver c t g) → (ownerClaims s c).decorate r t =
        (s.ownerRules.mapM (ownerValue c t)).map fun owners =>
          r.bindOwners ((s.ownerRules.map AuthRule.ownerField).zip owners)) ∧
      ((∀ g ∈ s.groupRules, ∃ value?, c.claim t g.groupClaim = .ok value?) →
        (∃ g ∈ s.groupRules, ∃ value, c.claim t g.groupClaim = .ok (some value) ∧ Lists g value) →
        (ownerClaims s c).decorate r t = .ok r)) ∧
    (∀ rule owner, ownerValue c t rule = .ok owner ↔
      c.claim t rule.identityClaim = .ok (some (.string owner)) ∧ owner ≠ "") ∧
    (∀ rule e, ownerValue c t rule = .error e ↔ c.claim t rule.identityClaim = .error e ∨
      (e = .missingClaim t rule.identityClaim ∧ ∃ value?, c.claim t rule.identityClaim = .ok value? ∧
        ∀ owner, value? = some (.string owner) → owner = "")) ∧
    (∀ r', (ownerClaims s c).decorate r t = .ok r' →
      r'.operationType = r.operationType ∧ r'.operationName = r.operationName ∧ r'.field = r.field ∧
      r'.modelName = r.modelName ∧ r'.selection = r.selection ∧
      ∀ name, name ∉ s.ownerRules.map AuthRule.ownerField →
        r'.typeOf? name = r.typeOf? name ∧ r'.valueOf? name = r.valueOf? name) ∧
    (∀ r', (ownerClaims s c).decorate r t = .ok r' → (ownerClaims s c).decorate r' t = .ok r') := by
  refine ⟨decorate_ownerClaims_of_untouched, fun subscription identity owned => ?_, ownerValue_eq_ok_iff,
    ownerValue_eq_error_iff, fun r' decorated => decorate_ownerClaims_frame decorated,
    fun r' decorated => decorate_ownerClaims_idem decorated⟩
  have touched := @decorate_ownerClaims_of_touched c t s r subscription identity owned
  rw [inReadGroup_eq] at touched
  refine ⟨fun before rule after split passed => ⟨fun value read lists => ?_, fun e read => ?_⟩,
    fun passed => ?_, fun readable listed => ?_⟩
  · rw [touched, split, foldlM_readGroupStep_listed passed read lists]
    rfl
  · rw [touched, split, foldlM_readGroupStep_error passed read]
    rfl
  · -- every group rule passed the caller over: the scan finds nothing
    rw [touched, ← List.append_nil s.groupRules, foldlM_readGroupStep_passed passed]
    rfl
  · rw [touched, foldlM_readGroupStep_of_readable readable listed]
    rfl

/-- Todos that their owner reads, and that the `Admins` group reads too. -/
def todoOwners : ModelSchema where
  name := "Todo"
  fields := [.mkRequired "id" .id]
  authRules := [.ofStrategy .owner, .forGroups ["Admins"]]

/-- The subscription to created todos, selecting their ids. -/
def onCreateTodo : Request where
  operationType := .subscription
  operationName := "OnCreateTodo"
  field := "onCreateTodo"
  modelName := "Todo"
  selection := [.leaf "id"]

/-- The claims of `alice`, in no group. -/
def aliceClaims : ClaimSource := .static [("username", .string "alice")]

/-- A caller outside the read groups gets the owner bound, once. -/
theorem decorate_ownerClaims_binds_owner_once :
    (ownerClaims todoOwners aliceClaims).decorate onCreateTodo .userPools =
      .ok (onCreateTodo.withVariable "owner" "String!" (.string "alice")) ∧
    (ownerClaims todoOwners aliceClaims).decorate (onCreateTodo.withVariable "owner" "String!" (.string "alice"))
      .userPools = .ok (onCreateTodo.withVariable "owner" "String!" (.string "alice")) := by
  have spec := decorate_ownerClaims_spec todoOwners aliceClaims onCreateTodo .userPools
  -- the only group rule reads `cognito:groups`, which the claims lack
  have passed : ∀ g ∈ todoOwners.groupRules, PassesOver aliceClaims .userPools g := by
    intro g mem
    have only : g = .forGroups ["Admins"] := by
      simpa [todoOwners, ModelSchema.groupRules, AuthRule.ofStrategy, AuthRule.forGroups] using mem
    subst only
    exact ⟨none, rfl, fun _ none => by cases none⟩
  have decorated := (spec.2.1 rfl (.inl rfl) (by simp [todoOwners, ModelSchema.ownerRules, AuthRule.isOwner,
    AuthRule.ofStrategy])).2.1 passed
  rw [decorated] at spec ⊢
  exact ⟨rfl, spec.2.2.2.2.2 _ rfl⟩

/-- Todos with two group rules: the `Admins` group read from the token's
`cognito:groups` claim, and again from its `custom:groups` claim. -/
def twoGroupTodos : ModelSchema where
  name := "Todo"
  fields := [.mkRequired "id" .id]
  authRules := [.ofStrategy .owner, .forGroups ["Admins"], { AuthRule.forGroups ["Admins"] with groupClaim := "custom:groups" }]

/-- A source that cannot read the `cognito:groups` claim, and lists `alice` in
`Admins` under `custom:groups`. -/
def splitGroupClaims : ClaimSource :=
  ⟨fun _ name =>
    if name = "cognito:groups" then .error (.claimsUnavailable "no cognito:groups claim")
    else if name = "custom:groups" then .ok (some (.array [.string "Admins"]))
    else if name = "username" then .ok (some (.string "alice"))
    else .ok none⟩

/-- A caller listed in a read group by a later group rule is not left alone
when an earlier group claim cannot be read: the decoration fails with that
claim's error. -/
theorem decorate_fails_before_listed_group :
    (∃ g ∈ twoGroupTodos.groupRules, ∃ value, splitGroupClaims.claim .userPools g.groupClaim = .ok (some value) ∧
      Lists g value) ∧
    (ownerClaims twoGroupTodos splitGroupClaims).decorate onCreateTodo .userPools =
      .error (.claimsUnavailable "no cognito:groups claim") := by
  refine ⟨⟨{ AuthRule.forGroups ["Admins"] with groupClaim := "custom:groups" }, ?_,
    .array [.string "Admins"], rfl, "Admins", List.mem_singleton_self _, .inl ⟨_, rfl, List.mem_singleton_self _⟩⟩, ?_⟩
  · simp [twoGroupTodos, ModelSchema.groupRules, AuthRule.forGroups]
  · rfl

end Decorator

end ModelSync
