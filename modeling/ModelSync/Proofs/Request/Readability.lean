import ModelSync.Proofs.Request.Variables
/-!
A request can be read back from what it is sent as.

The payload of a request is its document and its variables' values. The
values give the variables' names; the document gives the rest once the names
it writes are plain (`Request.Plain`). The operation's keyword ends at the
first space; the operation's name and the root field end at the first space
or parenthesis; a declared type ends at the first comma or closing
parenthesis. Below the root field the indentation of a line gives its depth,
a line ending in ` {` opens the lines of its children, and those end at the
first line indented less, which closes them with `}`
(`Selection.eq_of_renderAll_append`). So two requests sent alike have the
same operation, root field, variables and selection
(`Request.eq_of_wire_eq`).

Every request the library gives out is plain (`ModelSchema.Built.plain`): it
writes constants and names that validation checked to be GraphQL names, and
declares constant types or types made of the model's name.
-/
namespace ModelSync

namespace Text

/-- The text holds none of the characters `stops`. -/
def Avoids (stops : List Char) (s : String) : Prop := ∀ c ∈ s.toList, c ∉ stops

-- checked character by character, not by a search over all characters
instance (stops : List Char) (s : String) : Decidable (Avoids stops s) :=
  List.decidableBAll (fun c => c ∉ stops) s.toList

variable {stops : List Char}

/-- Read up to the first stop, a word that avoids the stops is itself. -/
theorem takeWhile_avoids {w : String} {c : Char} {rest : List Char} (avoids : Avoids stops w)
    (stop : c ∈ stops) : (w.toList ++ c :: rest).takeWhile (fun x => decide (x ∉ stops)) = w.toList := by
  rw [List.takeWhile_append_of_pos (fun x mem => decide_eq_true (avoids x mem))]
  simp [stop]

/-- Two texts that start with a word avoiding the stops and go on with a stop
agree on the word and on what follows it. -/
theorem eq_of_avoids_append {w w' : String} {u v : List Char} (avoids : Avoids stops w)
    (avoids' : Avoids stops w') (stop : ∃ c ∈ stops, ∃ rest, u = c :: rest)
    (stop' : ∃ c ∈ stops, ∃ rest, v = c :: rest) (same : w.toList ++ u = w'.toList ++ v) :
    w = w' ∧ u = v := by
  obtain ⟨c, stop, rest, rfl⟩ := stop
  obtain ⟨c', stop', rest', rfl⟩ := stop'
  have words : w.toList = w'.toList := by
    rw [← takeWhile_avoids avoids stop, same, takeWhile_avoids avoids' stop']
  rw [words] at same
  exact ⟨String.toList_inj.mp words, List.append_cancel_left same⟩

end Text

/-! ## The lines of a selection -/

namespace Selection

theorem toList_indent_succ (d : Nat) : (indent (d + 1)).toList = (indent d).toList ++ [' ', ' '] := by
  simp [indent, String.toList_ofList, Nat.mul_succ, List.replicate_add]

theorem toList_render_leaf (d : Nat) (n : String) :
    (render d (node n [])).toList = (indent d).toList ++ (n.toList ++ ['\n']) := by
  simp [render, String.toList_append]

theorem toList_render_node (d : Nat) (n : String) (c : Selection) (cs : List Selection) :
    (render d (node n (c :: cs))).toList = (indent d).toList ++ (n.toList ++ ' ' :: '{' :: '\n' ::
      ((renderAll (d + 1) (c :: cs)).toList ++ ((indent d).toList ++ ['}', '\n']))) := by
  simp [render, String.toList_append]

@[simp] theorem toList_renderAll_nil (d : Nat) : (renderAll d []).toList = [] := by
  simp [renderAll]

theorem toList_renderAll_cons (d : Nat) (s : Selection) (ss : List Selection) :
    (renderAll d (s :: ss)).toList = (render d s).toList ++ (renderAll d ss).toList := by
  simp [renderAll, String.toList_append]

/-- A line one level below starts with two more spaces. -/
theorem render_succ_starts (d : Nat) (s : Selection) :
    ∃ rest, (render (d + 1) s).toList = (indent d).toList ++ ' ' :: rest := by
  obtain ⟨n, cs⟩ := s
  cases cs with
  | nil => exact ⟨' ' :: (n.toList ++ ['\n']), by simp [toList_render_leaf, toList_indent_succ]⟩
  | cons c cs =>
    refine ⟨' ' :: (n.toList ++ ' ' :: '{' :: '\n' :: ((renderAll (d + 1 + 1) (c :: cs)).toList ++
      ((indent d).toList ++ [' ', ' ', '}', '\n']))), ?_⟩
    simp [toList_render_node, toList_indent_succ]

mutual

/-- The lines of a selection whose names stay on their lines, followed by
anything, give back the selection and what follows them. -/
theorem eq_of_render_append : ∀ {s t : Selection} {d : Nat} {u v : List Char},
    s.Named (Text.Avoids [' ', '\n']) → t.Named (Text.Avoids [' ', '\n']) →
    (render d s).toList ++ u = (render d t).toList ++ v → s = t ∧ u = v
  | node n cs, node n' cs', _, _, _, plain, plain', same => by
    cases plain with | node name below =>
    cases plain' with | node name' below' =>
    -- after the indentation, the name runs up to the line's end or the ` {` after it
    cases cs with
    | nil =>
      cases cs' with
      | nil =>
        simp only [toList_render_leaf, List.append_assoc, List.cons_append, List.nil_append] at same
        obtain ⟨rfl, after⟩ := Text.eq_of_avoids_append name name' ⟨_, by simp, _, rfl⟩
          ⟨_, by simp, _, rfl⟩ (List.append_cancel_left same)
        exact ⟨rfl, (List.cons.inj after).2⟩
      | cons =>
        simp only [toList_render_leaf, toList_render_node, List.append_assoc, List.cons_append,
          List.nil_append] at same
        obtain ⟨-, after⟩ := Text.eq_of_avoids_append name name' ⟨_, by simp, _, rfl⟩
          ⟨_, by simp, _, rfl⟩ (List.append_cancel_left same)
        simp at after
    | cons c cs =>
      cases cs' with
      | nil =>
        simp only [toList_render_leaf, toList_render_node, List.append_assoc, List.cons_append,
          List.nil_append] at same
        obtain ⟨-, after⟩ := Text.eq_of_avoids_append name name' ⟨_, by simp, _, rfl⟩
          ⟨_, by simp, _, rfl⟩ (List.append_cancel_left same)
        simp at after
      | cons c' cs' =>
        simp only [toList_render_node, List.append_assoc, List.cons_append] at same
        obtain ⟨rfl, after⟩ := Text.eq_of_avoids_append name name' ⟨_, by simp, _, rfl⟩
          ⟨_, by simp, _, rfl⟩ (List.append_cancel_left same)
        simp only [List.cons.injEq, true_and] at after
        -- the children's lines end where the line closing the node starts
        obtain ⟨children, rest⟩ := eq_of_renderAll_append below below' after
        exact ⟨by rw [children], (List.cons.inj rest).2⟩

/-- The lines of several selections one level below `d`, followed by a line
at depth `d` that closes them, give back the selections and what follows. -/
theorem eq_of_renderAll_append : ∀ {ss ts : List Selection} {d : Nat} {u v : List Char},
    (∀ s ∈ ss, s.Named (Text.Avoids [' ', '\n'])) → (∀ t ∈ ts, t.Named (Text.Avoids [' ', '\n'])) →
    (renderAll (d + 1) ss).toList ++ ((indent d).toList ++ '}' :: u) =
      (renderAll (d + 1) ts).toList ++ ((indent d).toList ++ '}' :: v) → ss = ts ∧ u = v
  | [], [], _, _, _, _, _, same => by
    simp only [toList_renderAll_nil, List.nil_append] at same
    exact ⟨rfl, (List.cons.inj (List.append_cancel_left same)).2⟩
  -- a line of a child is indented further than the closing line
  | [], t :: _, d, _, _, _, _, same => by
    obtain ⟨rest, starts⟩ := render_succ_starts d t
    simp only [toList_renderAll_nil, List.nil_append, toList_renderAll_cons, starts, List.append_assoc,
      List.cons_append] at same
    simp at same
  | s :: _, [], d, _, _, _, _, same => by
    obtain ⟨rest, starts⟩ := render_succ_starts d s
    simp only [toList_renderAll_nil, List.nil_append, toList_renderAll_cons, starts, List.append_assoc,
      List.cons_append] at same
    simp at same
  | s :: ss, t :: ts, _, _, _, plain, plain', same => by
    simp only [toList_renderAll_cons, List.append_assoc] at same
    obtain ⟨rfl, rest⟩ := eq_of_render_append (plain s List.mem_cons_self)
      (plain' t List.mem_cons_self) same
    obtain ⟨rfl, after⟩ := eq_of_renderAll_append (fun s' mem => plain s' (List.mem_cons_of_mem s mem))
      (fun t' mem => plain' t' (List.mem_cons_of_mem s mem)) rest
    exact ⟨rfl, after⟩

end

end Selection

/-! ## The header of a document -/

theorem OperationType.avoids_name (t : OperationType) : Text.Avoids [' '] t.name := by
  cases t <;> decide

/-- Looking an operation type's keyword up gives the type back. -/
theorem OperationType.lookup_name (t : OperationType) : OperationType.names.lookup t.name = some t := by
  cases t <;> decide

theorem OperationType.name_injective : Function.Injective OperationType.name := by
  intro t t' same
  apply Option.some.inj
  rw [← OperationType.lookup_name, same, OperationType.lookup_name]

namespace Request

theorem toList_separator : (", " : String).toList = [',', ' '] := by simp

/-- Declarations of known names, whose types end at a comma or a closing
parenthesis, give back the types and what follows the parenthesis that
closes them. -/
theorem eq_of_declared_append : ∀ {l l' : List (String × String)} {u v : List Char},
    l.map Prod.fst = l'.map Prod.fst →
    (∀ x ∈ l, Text.Avoids [',', ')'] x.2) → (∀ x ∈ l', Text.Avoids [',', ')'] x.2) →
    (", ".intercalate (l.map fun (n, t) => "$" ++ n ++ ": " ++ t)).toList ++ ')' :: u =
      (", ".intercalate (l'.map fun (n, t) => "$" ++ n ++ ": " ++ t)).toList ++ ')' :: v →
    l = l' ∧ u = v
  | [], [], _, _, _, _, _, same => by simpa using same
  | [], _ :: _, _, _, names, _, _, _ => by simp at names
  | _ :: _, [], _, _, names, _, _, _ => by simp at names
  | [_], _ :: _ :: _, _, _, names, _, _, _ => by simp at names
  | _ :: _ :: _, [_], _, _, names, _, _, _ => by simp at names
  | [(n, t)], [(n', t')], _, _, names, typed, typed', same => by
    simp only [List.map_cons, List.map_nil, List.cons.injEq, and_true] at names
    subst names
    simp only [List.map_cons, List.map_nil, String.intercalate_singleton, String.toList_append,
      List.append_assoc, List.append_cancel_left_eq] at same
    obtain ⟨rfl, after⟩ := Text.eq_of_avoids_append (typed _ List.mem_cons_self)
      (typed' _ List.mem_cons_self) ⟨_, by simp, _, rfl⟩ ⟨_, by simp, _, rfl⟩ same
    exact ⟨rfl, (List.cons.inj after).2⟩
  | (n, t) :: (m, s) :: rest, (n', t') :: (m', s') :: rest', u, v, names, typed, typed', same => by
    simp only [List.map_cons, List.cons.injEq] at names
    obtain ⟨rfl, names⟩ := names
    simp only [List.map_cons, String.intercalate_cons_cons, String.toList_append, toList_separator,
      List.cons_append, List.append_assoc, List.append_cancel_left_eq] at same
    -- the first type ends at the comma before the next declaration
    obtain ⟨rfl, after⟩ := Text.eq_of_avoids_append (typed _ List.mem_cons_self)
      (typed' _ List.mem_cons_self) ⟨_, by simp, _, rfl⟩ ⟨_, by simp, _, rfl⟩ same
    simp only [List.cons.injEq, true_and] at after
    obtain ⟨tail, rest⟩ := @eq_of_declared_append ((m, s) :: rest) ((m', s') :: rest') u v
      (by simpa using names) (fun x mem => typed x (List.mem_cons_of_mem _ mem))
      (fun x mem => typed' x (List.mem_cons_of_mem _ mem)) after
    exact ⟨by rw [tail], rest⟩

theorem toList_parenthesized_cons (item : String) (items : List String) :
    (parenthesized (item :: items)).toList = '(' :: ((", ".intercalate (item :: items)).toList ++ [')']) := by
  simp [parenthesized, String.toList_append]

/-- The declarations, of known names, give back the types bound to them and
what follows. -/
theorem eq_of_parenthesized_append {l l' : List (String × String)} {u v : List Char}
    (names : l.map Prod.fst = l'.map Prod.fst) (typed : ∀ x ∈ l, Text.Avoids [',', ')'] x.2)
    (typed' : ∀ x ∈ l', Text.Avoids [',', ')'] x.2)
    (same : (parenthesized (l.map fun (n, t) => "$" ++ n ++ ": " ++ t)).toList ++ u =
      (parenthesized (l'.map fun (n, t) => "$" ++ n ++ ": " ++ t)).toList ++ v) : l = l' ∧ u = v := by
  cases l with
  | nil =>
    rw [List.map_nil, eq_comm, List.map_eq_nil_iff] at names
    subst names
    simpa [parenthesized] using same
  | cons x l =>
    cases l' with
    | nil => simp at names
    | cons x' l' =>
      simp only [List.map_cons, toList_parenthesized_cons, List.cons_append, List.append_assoc,
        List.cons.injEq, true_and] at same
      exact eq_of_declared_append names typed typed' same

/-- After a name, a header line goes on with a space or with the parenthesis
that opens a list. -/
theorem parenthesized_stop (items : List String) (u : List Char) :
    ∃ c ∈ [' ', '('], ∃ rest, (parenthesized items).toList ++ ' ' :: u = c :: rest := by
  cases items with
  | nil => exact ⟨' ', by simp, u, by simp [parenthesized]⟩
  | cons item items => exact ⟨'(', by simp, _, by rw [toList_parenthesized_cons, List.cons_append]⟩

theorem toList_content (r : Request) : r.content.toList =
    r.operationType.name.toList ++ ' ' :: (r.operationName.toList ++ (r.declarations.toList ++
      ' ' :: '{' :: '\n' :: ' ' :: ' ' :: (r.field.toList ++ (r.arguments.toList ++ ' ' :: '{' :: '\n' ::
        ((Selection.renderAll 2 r.selection).toList ++
          ((Selection.indent 1).toList ++ '}' :: ['\n', '}', '\n'])))))) := by
  simp [content, String.toList_append, Selection.indent]

/-- A request's document can be read back: its names end where they should.
The operation's name and the root field end at a space or parenthesis, each
declared type at a comma or closing parenthesis, and every selected name at
the end of its line or the ` {` that opens its children. Names that are
GraphQL names are all of that. -/
structure Plain (r : Request) : Prop where
  operationName : Text.Avoids [' ', '('] r.operationName
  field : Text.Avoids [' ', '('] r.field
  types : ∀ x ∈ r.variableTypes, Text.Avoids [',', ')'] x.2
  selection : ∀ s ∈ r.selection, s.Named (Text.Avoids [' ', '\n'])

/-- Two requests with plain names that are sent alike are the same request,
as far as the payload can tell: they have the same operation type and name,
root field, declared variables, values and selection. The values give the
variables' names; the document gives the rest. -/
theorem eq_of_wire_eq {r r' : Request} (reachable : r.Reachable) (reachable' : r'.Reachable) (plain : r.Plain)
    (plain' : r'.Plain) (same : r.wire = r'.wire) :
    r.operationType = r'.operationType ∧ r.operationName = r'.operationName ∧ r.field = r'.field ∧
      r.variableTypes = r'.variableTypes ∧ r.variableValues = r'.variableValues ∧
      r.selection = r'.selection := by
  rw [wire_members, wire_members] at same
  simp only [JsonValue.object.injEq, List.cons.injEq, Prod.mk.injEq, JsonValue.string.injEq, true_and,
    and_true] at same
  obtain ⟨text, values⟩ := same
  -- the values are sent under the declared names
  have names : r.variableNames = r'.variableNames := by
    have sent := congrArg (List.map Prod.fst) values
    rwa [variableValues, variableValues, ← Dictionary.keys, ← Dictionary.keys, reachable.keys_values,
      reachable'.keys_values] at sent
  have declared : r.variableTypes.map Prod.fst = r'.variableTypes.map Prod.fst := names
  replace text := congrArg String.toList text
  rw [toList_content, toList_content] at text
  -- the keyword, up to the space
  obtain ⟨keyword, text⟩ := Text.eq_of_avoids_append (OperationType.avoids_name _)
    (OperationType.avoids_name _) ⟨_, by simp, _, rfl⟩ ⟨_, by simp, _, rfl⟩ text
  simp only [List.cons.injEq, true_and] at text
  -- the operation's name, up to its declarations or the space
  rw [declarations_eq, declarations_eq] at text
  obtain ⟨opName, text⟩ := Text.eq_of_avoids_append plain.operationName plain'.operationName
    (parenthesized_stop _ _) (parenthesized_stop _ _) text
  obtain ⟨types, text⟩ := eq_of_parenthesized_append declared plain.types plain'.types text
  simp only [List.cons.injEq, true_and] at text
  -- the root field, up to its arguments or the space; the arguments are the names'
  rw [arguments_eq, arguments_eq, names] at text
  obtain ⟨field, text⟩ := Text.eq_of_avoids_append plain.field plain'.field
    (parenthesized_stop _ _) (parenthesized_stop _ _) text
  simp only [List.append_cancel_left_eq, List.cons.injEq, true_and] at text
  obtain ⟨selection, -⟩ := Selection.eq_of_renderAll_append plain.selection plain'.selection text
  exact ⟨OperationType.name_injective keyword, opName, field, types, values, selection⟩

/-- Binding a variable to a type that ends at a comma or closing parenthesis
keeps a request plain. -/
theorem Plain.withVariable {r : Request} (plain : r.Plain) (name type : String) (value : JsonValue)
    (typed : Text.Avoids [',', ')'] type) : (r.withVariable name type value).Plain where
  operationName := plain.operationName
  field := plain.field
  selection := plain.selection
  types := by
    intro x mem
    rcases Dictionary.mem_insertEntry mem with rfl | old
    · exact typed
    · exact plain.types x old

theorem Plain.withOptional {r : Request} (plain : r.Plain) (name type : String)
    (typed : Text.Avoids [',', ')'] type) (value : Option JsonValue) :
    (match value with
      | some v => r.withVariable name type v
      | none => r).Plain := by
  cases value with
  | none => exact plain
  | some v => exact plain.withVariable name type v typed

theorem Plain.nextPage {r : Request} (plain : r.Plain) (token : String) : (r.nextPage token).Plain :=
  plain.withVariable _ _ _ (by decide)

end Request

/-! ## Requests the library gives out -/

theorem isNameContinue_of_isNameStart {c : Char} (start : isNameStart c = true) : isNameContinue c = true := by
  simp only [isNameStart, isNameContinue, Char.isAlphanum, Bool.or_eq_true, Bool.and_eq_true] at start ⊢
  rcases start with underscore | ⟨letter, ascii⟩
  · exact .inl underscore
  · exact .inr ⟨.inl letter, ascii⟩

/-- Every character of a GraphQL name may continue one. -/
theorem isNameContinue_of_isGraphQLName {n : String} (named : isGraphQLName n = true) {c : Char}
    (mem : c ∈ n.toList) : isNameContinue c = true := by
  unfold isGraphQLName at named
  split at named
  · cases named
  · next first rest chars =>
    rw [chars] at mem
    simp only [Bool.and_eq_true, List.all_eq_true] at named
    rcases List.mem_cons.mp mem with rfl | later
    · exact isNameContinue_of_isNameStart named.1
    · exact named.2 c later

namespace Text

variable {stops : List Char}

@[simp] theorem avoids_append {a b : String} : Avoids stops (a ++ b) ↔ Avoids stops a ∧ Avoids stops b := by
  simp [Avoids, String.toList_append, or_imp, forall_and]

/-- A GraphQL name holds no character that no name continues with. -/
theorem avoids_of_isGraphQLName {n : String} (named : isGraphQLName n = true)
    (stopped : (stops.all fun c => !isNameContinue c) = true) : Avoids stops n := by
  intro c mem stop
  have continues := isNameContinue_of_isGraphQLName named mem
  have stops := List.all_eq_true.mp stopped c stop
  simp [continues] at stops

/-- A word made of a constant and a GraphQL name ends at a space or
parenthesis. -/
theorem avoids_prefixed {pre n : String} (named : isGraphQLName n = true) (plain : Avoids [' ', '('] pre) :
    Avoids [' ', '('] (pre ++ n) :=
  avoids_append.mpr ⟨plain, avoids_of_isGraphQLName named (by decide)⟩

/-- A type written around a GraphQL name ends at a comma or closing
parenthesis. -/
theorem avoids_typed {pre n post : String} (named : isGraphQLName n = true) (plain : Avoids [',', ')'] pre)
    (plain' : Avoids [',', ')'] post) : Avoids [',', ')'] (pre ++ n ++ post) :=
  avoids_append.mpr ⟨avoids_append.mpr ⟨plain, avoids_of_isGraphQLName named (by decide)⟩, plain'⟩

end Text

theorem Selection.Named.mono {p q : String → Prop} (weaker : ∀ n, p n → q n) {s : Selection}
    (named : s.Named p) : s.Named q := by
  induction named with
  | node name _ below => exact .node (weaker _ name) below

/-- Selected GraphQL names stay on their lines. -/
theorem Selection.Named.oneLine {s : Selection} (named : s.Named fun n => isGraphQLName n = true) :
    s.Named (Text.Avoids [' ', '\n']) :=
  named.mono fun _ graphQL => Text.avoids_of_isGraphQLName graphQL (by decide)

/-- A request as built, before any variable is bound, is plain when its
operation's name and root field end at a space or parenthesis and it selects
GraphQL names. -/
theorem Request.Plain.new {operationType : OperationType} {operationName field modelName : String}
    {selection : List Selection} (name : Text.Avoids [' ', '('] operationName)
    (root : Text.Avoids [' ', '('] field) (named : ∀ x ∈ selection, x.Named fun n => isGraphQLName n = true) :
    Request.Plain { operationType, operationName, field, modelName, selection } :=
  ⟨name, root, by simp [Request.variableTypes, Dictionary.empty], fun x mem => (named x mem).oneLine⟩

namespace ModelSchema

variable {s : ModelSchema}

theorem isGraphQLName_of_checkName {n : String} (checked : s.checkName n = .ok ()) :
    isGraphQLName n = true := by
  unfold checkName at checked
  cases named : isGraphQLName n
  · simp [named] at checked
  · rfl

/-- A schema that passed validation has a GraphQL name and plural. -/
theorem names_of_validate (valid : s.validate = .ok ()) :
    isGraphQLName s.name = true ∧ isGraphQLName s.plural = true := by
  unfold validate at valid
  obtain ⟨⟨⟩, name, valid⟩ := Except.bind_eq_ok valid
  obtain ⟨⟨⟩, plural, -⟩ := Except.bind_eq_ok valid
  exact ⟨isGraphQLName_of_checkName name, isGraphQLName_of_checkName plural⟩

theorem validate_of_recordSelection {selection : List Selection} (selected : s.recordSelection = .ok selection) :
    s.validate = .ok () := by
  unfold recordSelection at selected
  obtain ⟨⟨⟩, valid, -⟩ := Except.bind_eq_ok selected
  exact valid

/-- The record selection names only GraphQL names: the model's fields were
checked by validation, and the bookkeeping leaves are names too. -/
theorem named_of_recordSelection {selection : List Selection} (selected : s.recordSelection = .ok selection) :
    ∀ x ∈ selection, x.Named fun n => isGraphQLName n = true := by
  have valid := validate_of_recordSelection selected
  obtain ⟨entries, walk, -, named⟩ :=
    fieldEntries_of_checkFields _ (checkFields_of_validate valid) List.nodup_nil (by simp) (by simp)
  have record : s.recordSelection = .ok (Selection.sortByName (Selection.sortByName entries ++
      [.leaf "_deleted", .leaf "_lastChangedAt", .leaf "_version"])) := by
    simp [recordSelection, valid, fieldSelections, walk, Except.map, bind, Except.bind, pure, Except.pure]
  rw [record] at selected
  cases selected
  intro x mem
  simp only [Selection.mem_sortByName, List.mem_append, List.mem_cons, List.not_mem_nil, or_false] at mem
  rcases mem with mem | rfl | rfl | rfl
  · exact named x mem
  all_goals exact named_leaf (by decide)

theorem plain_of_syncRequest {lastSync limit : Option Nat} {p : Predicate} {r : Request}
    (built : s.syncRequest lastSync limit p = .ok r) : r.Plain := by
  unfold syncRequest at built
  obtain ⟨items, selected, built⟩ := Except.bind_eq_ok built
  obtain ⟨filter, -, built⟩ := Except.bind_eq_ok built
  cases built
  obtain ⟨name, plural⟩ := names_of_validate (validate_of_recordSelection selected)
  have base : Request.Plain
      { operationType := .query, operationName := "Sync" ++ s.plural, field := "sync" ++ s.plural,
        modelName := s.name, selection := [.node "items" items, .leaf "nextToken", .leaf "startedAt"] } := by
    refine .new (Text.avoids_prefixed plural (by decide)) (Text.avoids_prefixed plural (by decide)) ?_
    intro x mem
    simp only [List.mem_cons, List.not_mem_nil, or_false] at mem
    rcases mem with rfl | rfl | rfl
    · exact .node (by decide) (named_of_recordSelection selected)
    all_goals exact named_leaf (by decide)
  have filterType : Text.Avoids [',', ')'] ("Model" ++ s.name ++ "FilterInput") :=
    Text.avoids_typed name (by decide) (by decide)
  have withSync := base.withOptional "lastSync" "AWSTimestamp" (by decide) (lastSync.map JsonValue.nat)
  have withLimit := withSync.withOptional "limit" "Int" (by decide) (limit.map JsonValue.nat)
  have withFilter := withLimit.withOptional "filter" _ filterType filter
  cases lastSync <;> cases limit <;> exact withFilter

theorem plain_of_mutationRequest {kind : MutationKind} {input : Dictionary JsonValue}
    {condition : Option JsonValue} {r : Request} (built : s.mutationRequest kind input condition = .ok r) :
    r.Plain := by
  unfold mutationRequest at built
  obtain ⟨selection, selected, built⟩ := Except.bind_eq_ok built
  cases built
  obtain ⟨name, -⟩ := names_of_validate (validate_of_recordSelection selected)
  have verb : Text.Avoids [' ', '('] kind.verb ∧ Text.Avoids [' ', '('] kind.lowerVerb ∧
      Text.Avoids [',', ')'] kind.verb := by
    cases kind <;> decide
  have base : Request.Plain
      { operationType := .mutation, operationName := kind.verb ++ s.name,
        field := kind.lowerVerb ++ s.name, modelName := s.name, selection } :=
    .new (Text.avoids_prefixed name verb.1) (Text.avoids_prefixed name verb.2.1) (named_of_recordSelection selected)
  have withInput := base.withVariable "input" (kind.verb ++ s.name ++ "Input!") (.object input.entries)
    (Text.avoids_typed name verb.2.2 (by decide))
  exact withInput.withOptional "condition" ("Model" ++ s.name ++ "ConditionInput")
    (Text.avoids_typed name (by decide) (by decide)) condition

theorem plain_of_subscriptionRequest {kind : ChangeKind} {r : Request}
    (built : s.subscriptionRequest kind = .ok r) : r.Plain := by
  unfold subscriptionRequest at built
  obtain ⟨selection, selected, built⟩ := Except.bind_eq_ok built
  cases built
  obtain ⟨name, -⟩ := names_of_validate (validate_of_recordSelection selected)
  have verb : Text.Avoids [' ', '('] ("On" ++ kind.verb) ∧ Text.Avoids [' ', '('] ("on" ++ kind.verb) := by
    cases kind <;> decide
  exact .new (Text.avoids_prefixed name verb.1) (Text.avoids_prefixed name verb.2) (named_of_recordSelection selected)

/-- The requests the library gives out for a schema: what its builders
return, asked again for a later page, or decorated with the caller's
identity. Creations, updates and deletions are built as mutations. -/
inductive Built (s : ModelSchema) : Request → Prop
  | sync {lastSync limit : Option Nat} {p : Predicate} {r : Request} :
      s.syncRequest lastSync limit p = .ok r → Built s r
  | mutation {kind : MutationKind} {input : Dictionary JsonValue} {condition : Option JsonValue}
      {r : Request} : s.mutationRequest kind input condition = .ok r → Built s r
  | subscription {kind : ChangeKind} {r : Request} : s.subscriptionRequest kind = .ok r → Built s r
  | nextPage {r : Request} (token : String) : Built s r → Built s (r.nextPage token)
  | decorate {schema : ModelSchema} {claims : ClaimSource} {t : AuthType} {r r' : Request} :
      Built s r → (Decorator.ownerClaims schema claims).decorate r t = .ok r' → Built s r'

/-- Every request the library gives out is plain: the names it writes are
constants, the schema's names and its fields' names, all checked by
validation, and the types it declares are constants or made of the model's
name. -/
theorem Built.plain {r : Request} (built : s.Built r) : r.Plain := by
  induction built with
  | sync built => exact plain_of_syncRequest built
  | mutation built => exact plain_of_mutationRequest built
  | subscription built => exact plain_of_subscriptionRequest built
  | nextPage token _ plain => exact plain.nextPage token
  | decorate _ decorated plain =>
    -- the decorator binds owner fields as `String!`
    exact Decorator.preserved_of_decorate (fun _ _ _ plain => plain.withVariable _ _ _ (by decide)) plain
      decorated

/-- Every request the library gives out is reachable: the builders, a later
page and the owner decorator only bind variables. -/
theorem Built.reachable {r : Request} (built : s.Built r) : r.Reachable := by
  induction built with
  | sync built => exact reachable_of_syncRequest built
  | mutation built => exact reachable_of_mutationRequest built
  | subscription built => exact reachable_of_subscriptionRequest built
  | nextPage token _ reachable => exact reachable.nextPage token
  | decorate _ decorated reachable =>
    exact Decorator.preserved_of_decorate (fun _ _ _ reachable => reachable.withVariable _ _ _) reachable
      decorated

end ModelSchema

namespace Request

/-- The payload a request is sent as can be read back. Two reachable
requests with plain names that are sent alike have the same operation type
and name, root field, declared variables, values and selection; and every
request the library gives out, built for a validated schema, asked again for
a later page or decorated with the caller's identity, is reachable and has
plain names. -/
theorem wire_uniquely_readable :
    (∀ r r' : Request, r.Reachable → r'.Reachable → r.Plain → r'.Plain → r.wire = r'.wire →
      r.operationType = r'.operationType ∧ r.operationName = r'.operationName ∧ r.field = r'.field ∧
        r.variableTypes = r'.variableTypes ∧ r.variableValues = r'.variableValues ∧
        r.selection = r'.selection) ∧
    ∀ (s : ModelSchema) (r : Request), s.Built r → r.Reachable ∧ r.Plain :=
  ⟨fun _ _ => eq_of_wire_eq, fun _ _ built => ⟨built.reachable, built.plain⟩⟩

/-- A page of at most a hundred posts, under the model name `model`. -/
def postsPage (model : String) : Request :=
  ({ operationType := .query, operationName := "SyncPosts", field := "syncPosts", modelName := model,
      selection := [.node "items" [.leaf "id"], .leaf "nextToken"] } : Request).withVariable
    "limit" "Int" (.nat 100)

/-- The model's name is not sent: two requests that differ only there are
sent alike, and the payload gives back the rest of either. -/
theorem wire_uniquely_readable_page :
    (postsPage "Post").Reachable ∧ (postsPage "Post").Plain ∧
      (postsPage "Post").wire = (postsPage "Comment").wire ∧
      (postsPage "Post").variableTypes = (postsPage "Comment").variableTypes := by
  have selection : ∀ x ∈ [Selection.node "items" [.leaf "id"], .leaf "nextToken"],
      x.Named (Text.Avoids [' ', '\n']) := by
    intro x mem
    simp only [List.mem_cons, List.not_mem_nil, or_false] at mem
    rcases mem with rfl | rfl
    · exact .node (by decide) fun c below => by
        rw [List.mem_singleton.mp below]
        exact ModelSchema.named_leaf (by decide)
    · exact ModelSchema.named_leaf (by decide)
  have reachable : ∀ model, (postsPage model).Reachable := fun _ => (Reachable.new _ _ _ _ _).withVariable _ _ _
  have plain : (postsPage "Post").Plain := ⟨by decide, by decide, by decide, selection⟩
  have plain' : (postsPage "Comment").Plain := ⟨by decide, by decide, by decide, selection⟩
  exact ⟨reachable _, plain, rfl,
    (wire_uniquely_readable.1 _ _ (reachable _) (reachable _) plain plain' rfl).2.2.2.1⟩

end Request

end ModelSync
