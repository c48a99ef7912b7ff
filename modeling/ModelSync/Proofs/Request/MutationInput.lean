import ModelSync.Proofs.Dictionary
import ModelSync.Proofs.Request.Variables
/-!
The input of a record's creation or update.

A creation checks, in order: the schema, that the record belongs to the
schema's model, then each field of the schema in declaration order that the
record carries and that is neither read-only nor has-many: a belongs-to value
must be `null`, a string, or an object with a string `id`, and a list field's
value must be a list or `null` (`ModelSchema.fieldFault`). The first check
that fails is the error (`ModelSchema.inputFault`). An update makes the same
checks and then compiles its predicate.

The input is the fold over the fields that inserts each carried field's entry
(`ModelSchema.inputEntry`), a later key replacing an earlier one, less every
owner field holding `null` and nothing else (`ModelSchema.expectedInput`); an
update then sets `_version`. Main statement: `ModelSchema.mutation_input_spec`.
-/
namespace ModelSync

/-- Whether a value is `null`. -/
def JsonValue.isNull : JsonValue → Bool
  | .null => true
  | _ => false

namespace ModelSchema

/-- The key and value a record's field adds to the input: nothing for a
read-only or has-many field or one the record does not carry; the referenced
id under the target name for a belongs-to field; otherwise the value, `null`
included, under the field's name. -/
def inputEntry (r : ModelRecord) (f : ModelField) : Option (String × JsonValue) :=
  if f.readOnly || f.isHasMany then none
  else (r.fieldValue? f.name).map fun value =>
    match f.targetName?, value with
    | some target, .object members => (target, (members.lookup "id").getD .null)
    | some target, value => (target, value)
    | none, value => (f.name, value)

/-- Why a record's value for a field cannot be sent: a belongs-to value that
is not `null`, a string, or an object with a string `id`, or a list field's
value that is not a list or `null`. Fields that are not sent pass. -/
def fieldFault (s : ModelSchema) (r : ModelRecord) (f : ModelField) : Option BuildError :=
  if f.readOnly || f.isHasMany then none
  else match r.fieldValue? f.name, f.targetName? with
    | none, _ => none
    | some .null, _ => none
    | some (.string _), some _ => none
    | some (.object members), some _ =>
      match members.lookup "id" with
      | some (.string _) => none
      | _ => some (.fieldAccess s.name f.name "referenced model has no id")
    | some _, some _ => some (.fieldAccess s.name f.name "expected a model reference")
    | some (.array _), none => none
    | some _, none => if f.isArray then some (.fieldAccess s.name f.name "expected a list") else none

/-- The first check of a record against the schema that fails, in the order
they run: the schema, the record's model, then each field in order. -/
def inputFault (s : ModelSchema) (r : ModelRecord) : Option BuildError :=
  match s.validate with
  | .error e => some e
  | .ok () =>
    if r.modelName ≠ s.name then
      some (.fieldAccess s.name "id" ("record '" ++ r.id ++ "' is a '" ++ r.modelName ++ "'"))
    else s.fields.findSome? (s.fieldFault r)

/-- The input of a record: each carried field's entry inserted in field
order, a later key replacing an earlier one, then every owner field holding
`null` removed, and no other key. -/
def expectedInput (s : ModelSchema) (r : ModelRecord) : List (String × JsonValue) :=
  ((s.fields.filterMap (inputEntry r)).foldl (fun input (k, v) => JsonValue.insertMember k v input) []).filter
    fun (k, v) => !(v.isNull && s.ownerRules.any (·.ownerField == k))

/-- A value a field can send: for a belongs-to field `null`, a string, or an
object whose `id` is a string; for any other list field a list or `null`. -/
def Sendable (f : ModelField) (value : JsonValue) : Prop :=
  match f.targetName? with
  | some _ => value = .null ∨ (∃ id, value = .string id) ∨
      ∃ members id, value = .object members ∧ members.lookup "id" = some (.string id)
  | none => f.isArray = true → value = .null ∨ ∃ items, value = .array items

variable {s : ModelSchema} {r : ModelRecord}

/-- A field passes its check exactly when it is not sent, or its value can be sent. -/
theorem fieldFault_eq_none_iff (f : ModelField) :
    s.fieldFault r f = none ↔
      (f.readOnly = false → f.isHasMany = false →
        ∀ value, r.fieldValue? f.name = some value → Sendable f value) := by
  unfold fieldFault
  by_cases skipped : (f.readOnly || f.isHasMany) = true
  · simp only [skipped, if_true, true_iff]
    intro notReadOnly notHasMany
    simp [notReadOnly, notHasMany] at skipped
  · have sent : f.readOnly = false ∧ f.isHasMany = false := by simpa using skipped
    simp only [sent, forall_const]
    cases held : r.fieldValue? f.name with
    | none => simp
    | some value =>
      simp only [Option.some.injEq, forall_eq']
      unfold Sendable
      cases belongs : f.targetName? with
      | some target =>
        cases value with
        | null => simp
        | string id => simp
        | object members =>
          simp only [reduceCtorEq, false_or, exists_false, JsonValue.object.injEq]
          cases found : members.lookup "id" with
          | some id => cases id <;> simp [found]
          | none => simp [found]
        | _ => simp
      | none =>
        cases value <;> cases f.isArray <;> simp

/-- One field of the input: its check, then its entry. -/
theorem addInputField_eq (input : Dictionary JsonValue) (f : ModelField) :
    s.addInputField r input f =
      match s.fieldFault r f with
      | some e => .error e
      | none => .ok (match inputEntry r f with
        | some (k, v) => input.insert k v
        | none => input) := by
  unfold addInputField fieldFault inputEntry
  by_cases skipped : (f.readOnly || f.isHasMany) = true
  · simp only [skipped, if_true]
  · simp only [skipped, if_false, Bool.false_eq_true]
    cases held : r.fieldValue? f.name with
    | none => rfl
    | some value =>
      cases belongs : f.targetName? with
      | some target =>
        cases value with
        | object members =>
          simp only [referenceId, Option.map_some]
          cases found : members.lookup "id" with
          | some id => cases id <;> rfl
          | none => rfl
        | _ => rfl
      | none =>
        cases value <;> cases f.isArray <;> rfl

/-- The fields in order: the first field whose check fails is the error;
otherwise every entry is inserted in order. -/
theorem foldlM_addInputField :
    ∀ (fields : List ModelField) (input : Dictionary JsonValue),
      fields.foldlM (s.addInputField r) input =
        match fields.findSome? (s.fieldFault r) with
        | some e => .error e
        | none => .ok ((fields.filterMap (inputEntry r)).foldl (fun input (k, v) => input.insert k v) input)
  | [], input => rfl
  | f :: rest, input => by
    rw [List.foldlM_cons, addInputField_eq, List.findSome?_cons]
    cases fault : s.fieldFault r f with
    | some e => rfl
    | none =>
      simp only [bind, Except.bind]
      rw [foldlM_addInputField rest]
      cases entry : inputEntry r f with
      | some kv => simp [entry]
      | none => simp [entry]

/-- Leaving out one owner field when it holds `null` leaves out exactly the
entry under that key if its value is `null`. -/
theorem dropNull_eq_filter (field : String) (input : Dictionary JsonValue) :
    (match input.get? field with
      | some .null => input.erase field
      | _ => input).entries = input.entries.filter fun m => !(m.2.isNull && field == m.1) := by
  -- an entry under `field` is the one its lookup finds
  have found : ∀ m ∈ input.entries, m.1 = field → input.get? field = some m.2 := fun m mem same => by
    subst same
    exact Dictionary.mem_entries_iff_get?.mp mem
  have kept : (∀ m ∈ input.entries, m.1 = field → m.2.isNull = false) →
      input.entries = input.entries.filter fun m => !(m.2.isNull && field == m.1) := fun notNull =>
    (List.filter_eq_self.mpr fun m mem => by
      by_cases same : m.1 = field
      · simp [notNull m mem same]
      · simp [Ne.symm same]).symm
  cases held : input.get? field with
  | none =>
    exact kept fun m mem same => by simp [found m mem same] at held
  | some value =>
    cases value with
    | null =>
      rw [Dictionary.entries_erase]
      refine List.filter_congr fun m mem => ?_
      by_cases same : m.1 = field
      · have isNull : m.2 = .null := Option.some.inj ((found m mem same).symm.trans held)
        simp [same, isNull, JsonValue.isNull]
      · have elsewhere : (m.1 != field) = true := bne_iff_ne.mpr same
        have other : (field == m.1) = false := beq_false_of_ne (Ne.symm same)
        rw [elsewhere, other, Bool.and_false, Bool.not_false]
    | _ =>
      exact kept fun m mem same => by
        rw [Option.some.inj ((found m mem same).symm.trans held)]
        rfl

/-- Leaving out each rule's owner field when it holds `null`, rules in order,
leaves out exactly the `null` entries under some rule's owner field. -/
theorem foldl_dropNull :
    ∀ (rules : List AuthRule) (input : Dictionary JsonValue),
      (rules.foldl (fun acc rule =>
        match acc.get? rule.ownerField with
        | some .null => acc.erase rule.ownerField
        | _ => acc) input).entries =
      input.entries.filter fun m => !(m.2.isNull && rules.any (·.ownerField == m.1))
  | [], input => by simp
  | rule :: rest, input => by
    rw [List.foldl_cons, foldl_dropNull rest, dropNull_eq_filter rule.ownerField, List.filter_filter]
    refine List.filter_congr fun m _ => ?_
    cases m.2.isNull <;> simp [Bool.and_comm]

theorem removeNullOwnerFields_eq (input : Dictionary JsonValue) :
    (s.removeNullOwnerFields input).entries =
      input.entries.filter fun (k, v) => !(v.isNull && s.ownerRules.any (·.ownerField == k)) :=
  foldl_dropNull s.ownerRules input

/-- Inserting entries one after another into a dictionary inserts them into its entries. -/
theorem entries_foldl_insert :
    ∀ (entries : List (String × JsonValue)) (input : Dictionary JsonValue),
      (entries.foldl (fun input (k, v) => input.insert k v) input).entries =
        entries.foldl (fun input (k, v) => JsonValue.insertMember k v input) input.entries
  | [], _ => rfl
  | (k, v) :: rest, input => entries_foldl_insert rest (input.insert k v)

/-- The fields' entries inserted in order, less the owner fields holding
`null`: the entries of the record's input. -/
theorem entries_removeNullOwnerFields :
    (s.removeNullOwnerFields ((s.fields.filterMap (inputEntry r)).foldl (fun input (k, v) => input.insert k v)
      Dictionary.empty)).entries = s.expectedInput r := by
  rw [removeNullOwnerFields_eq, entries_foldl_insert, expectedInput]
  rfl

/-- The input of a record, or the first check it fails. -/
theorem mutationInput_eq :
    s.mutationInput r =
      match s.inputFault r with
      | some e => .error e
      | none => .ok (s.removeNullOwnerFields ((s.fields.filterMap (inputEntry r)).foldl
          (fun input (k, v) => input.insert k v) Dictionary.empty)) := by
  unfold mutationInput inputFault
  cases valid : s.validate with
  | error e => rfl
  | ok u =>
    by_cases mismatch : r.modelName ≠ s.name
    · simp [mismatch, bind, Except.bind, throw, throwThe, MonadExceptOf.throw]
    · simp only [mismatch, bind, Except.bind, if_false, pure, Except.pure]
      rw [foldlM_addInputField]
      cases s.fields.findSome? (s.fieldFault r) <;> rfl

theorem validate_of_inputFault (clean : s.inputFault r = none) : s.validate = .ok () := by
  unfold inputFault at clean
  cases valid : s.validate with
  | error e => simp [valid] at clean
  | ok u => rfl

/-- A schema that passes validation has a record selection. -/
theorem recordSelection_of_validate (valid : s.validate = .ok ()) :
    ∃ selection, s.recordSelection = .ok selection := by
  obtain ⟨entries, walk, -⟩ :=
    fieldEntries_of_checkFields _ (checkFields_of_validate valid) List.nodup_nil (by simp) (by simp)
  cases selected : s.recordSelection with
  | ok selection => exact ⟨selection, rfl⟩
  | error e =>
    simp [recordSelection, valid, fieldSelections, walk, Except.map, bind, Except.bind, pure,
      Except.pure] at selected

/-- On a validated schema a mutation is built, and sends its input as `input`. -/
theorem input_of_mutationRequest (valid : s.validate = .ok ()) (kind : MutationKind)
    (input : Dictionary JsonValue) (condition : Option JsonValue) :
    ∃ req, s.mutationRequest kind input condition = .ok req ∧ req.valueOf? "input" = some (.object input.entries) := by
  obtain ⟨selection, selected⟩ := recordSelection_of_validate valid
  have other : ("input" : String) ≠ "condition" := by decide
  cases made : s.mutationRequest kind input condition with
  | error e => simp [mutationRequest, selected, bind, Except.bind, pure, Except.pure] at made
  | ok req =>
    refine ⟨req, rfl, ?_⟩
    simp only [mutationRequest, selected, bind, Except.bind, pure, Except.pure, Except.ok.injEq] at made
    subst made
    cases condition <;> simp [other]

/-- Creating and updating a record. Both check, in order, the schema, the
record's model and each field in declaration order, and fail with the first
check that fails; an update then compiles its predicate and fails with its
error. A field's check passes exactly when the field is not sent or its value
can be sent. On success the input sent is the record's input, and an update's
is that input with `_version` set to the expected version. -/
theorem mutation_input_spec (s : ModelSchema) (r : ModelRecord) (version : Nat) (p : Predicate) :
    (∀ f, s.fieldFault r f = none ↔
      (f.readOnly = false → f.isHasMany = false →
        ∀ value, r.fieldValue? f.name = some value → Sendable f value)) ∧
    (∀ e, s.inputFault r = some e → s.createRequest r = .error e ∧ s.updateRequest r version p = .error e) ∧
    (s.inputFault r = none →
      (∃ req, s.createRequest r = .ok req ∧ req.valueOf? "input" = some (.object (s.expectedInput r))) ∧
      (∀ e, p.compile = .error e → s.updateRequest r version p = .error e) ∧
      (∀ filter, p.compile = .ok filter → ∃ req, s.updateRequest r version p = .ok req ∧
        req.valueOf? "input" =
          some (.object (JsonValue.insertMember "_version" (.nat version) (s.expectedInput r))))) := by
  refine ⟨fieldFault_eq_none_iff, fun e fault => ?_, fun clean => ?_⟩
  · -- the input fails first, so neither request is built
    have failed : s.mutationInput r = .error e := by rw [mutationInput_eq, fault]
    simp [createRequest, updateRequest, failed, bind, Except.bind]
  · obtain ⟨input, built, entries⟩ : ∃ input, s.mutationInput r = .ok input ∧ input.entries = s.expectedInput r :=
      ⟨_, by rw [mutationInput_eq, clean], entries_removeNullOwnerFields⟩
    have valid := validate_of_inputFault clean
    refine ⟨?_, fun e compiled => ?_, fun filter compiled => ?_⟩
    · obtain ⟨req, made, sent⟩ := input_of_mutationRequest valid .create input none
      refine ⟨req, by simp [createRequest, built, made, bind, Except.bind], ?_⟩
      rw [sent, entries]
    · simp [updateRequest, built, compiled, bind, Except.bind]
    · obtain ⟨req, made, sent⟩ :=
        input_of_mutationRequest valid .update (input.insert "_version" (.nat version)) filter
      refine ⟨req, by simp [updateRequest, built, compiled, made, bind, Except.bind], ?_⟩
      -- `_version` is inserted into the input's entries
      rw [sent, ← entries]
      rfl

end ModelSchema
end ModelSync
