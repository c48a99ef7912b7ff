/-!
Dictionaries keyed by strings, kept as lists of entries sorted by key with each
key at most once; a dictionary carries the proof of that order, and inserting
gives it for the new entries. Sorted order is the order in which a dictionary
is listed and printed; inserting a key that is present replaces its value in
place.
-/
namespace ModelSync

namespace Dictionary

/-- The keys are strictly ascending: in order, and each at most once. -/
def Sorted {α : Type} (entries : List (String × α)) : Prop := (entries.map Prod.fst).Pairwise (· < ·)

end Dictionary

/-- Entries sorted by key, each key at most once. -/
structure Dictionary (α : Type) where
  entries : List (String × α)
  sorted : Dictionary.Sorted entries
  deriving Repr

namespace Dictionary

variable {α : Type}

@[simp] theorem sorted_nil : Sorted ([] : List (String × α)) := List.Pairwise.nil

theorem sorted_cons {k : String} {v : α} {rest : List (String × α)} :
    Sorted ((k, v) :: rest) ↔ (∀ k' ∈ rest.map Prod.fst, k < k') ∧ Sorted rest := by
  simp [Sorted, List.pairwise_cons]

/-- The dictionary with no entries. -/
def empty : Dictionary α := ⟨[], sorted_nil⟩

instance : Inhabited (Dictionary α) := ⟨empty⟩

/-- Entries with `key` bound to `value`, placed in key order. -/
def insertEntry (key : String) (value : α) : List (String × α) → List (String × α)
  | [] => [(key, value)]
  | (k, v) :: rest =>
    if key = k then (key, value) :: rest
    else if key < k then (key, value) :: (k, v) :: rest
    else (k, v) :: insertEntry key value rest

theorem mem_keys_insertEntry {key k : String} {value : α} {entries : List (String × α)} :
    k ∈ (insertEntry key value entries).map Prod.fst ↔ k = key ∨ k ∈ entries.map Prod.fst := by
  induction entries with
  | nil => simp [insertEntry]
  | cons head rest ih =>
    obtain ⟨k', v'⟩ := head
    unfold insertEntry
    by_cases same : key = k'
    · subst same
      simp
    · by_cases before : key < k'
      · simp [same, before]
      · simp only [same, before, if_false, List.map_cons, List.mem_cons, ih]
        constructor
        · rintro (h | h | h) <;> simp [h]
        · rintro (h | h | h) <;> simp [h]

/-- Binding a key keeps strictly ascending keys strictly ascending. -/
theorem sorted_insertEntry {key : String} {value : α} {entries : List (String × α)}
    (sorted : Sorted entries) : Sorted (insertEntry key value entries) := by
  induction entries with
  | nil => simp [insertEntry, Sorted]
  | cons head rest ih =>
    obtain ⟨k', v'⟩ := head
    obtain ⟨above, sortedRest⟩ := sorted_cons.mp sorted
    unfold insertEntry
    by_cases same : key = k'
    · subst same
      rw [if_pos rfl]
      exact sorted_cons.mpr ⟨above, sortedRest⟩
    · by_cases before : key < k'
      · simp only [same, before, if_false, if_true]
        refine sorted_cons.mpr ⟨?_, sorted⟩
        intro k'' mem
        simp only [List.map_cons, List.mem_cons] at mem
        rcases mem with rfl | mem
        · exact before
        · exact String.lt_trans before (above k'' mem)
      · -- the key goes further down, past `k'`, which stays below it
        have below : k' < key := Std.lt_of_le_of_ne before (Ne.symm same)
        simp only [same, before, if_false]
        refine sorted_cons.mpr ⟨fun k'' mem => ?_, ih sortedRest⟩
        rcases mem_keys_insertEntry.mp mem with rfl | mem
        · exact below
        · exact above k'' mem

/-- The dictionary with `key` bound to `value`. -/
def insert (d : Dictionary α) (key : String) (value : α) : Dictionary α :=
  ⟨insertEntry key value d.entries, sorted_insertEntry d.sorted⟩

/-- Entries without the one bound to `key`. -/
def eraseEntry (key : String) : List (String × α) → List (String × α)
  | [] => []
  | (k, v) :: rest => if key = k then rest else (k, v) :: eraseEntry key rest

theorem keys_eraseEntry_sublist (key : String) : ∀ entries : List (String × α),
    ((eraseEntry key entries).map Prod.fst).Sublist (entries.map Prod.fst)
  | [] => List.Sublist.slnil
  | (k, v) :: rest => by
    unfold eraseEntry
    split
    · exact List.sublist_cons_self k _
    · exact (keys_eraseEntry_sublist key rest).cons_cons k

/-- The dictionary without `key`. -/
def erase (d : Dictionary α) (key : String) : Dictionary α :=
  ⟨eraseEntry key d.entries, d.sorted.sublist (keys_eraseEntry_sublist key d.entries)⟩

/-- The value bound to `key`. -/
def get? (d : Dictionary α) (key : String) : Option α := d.entries.lookup key

/-- Whether `key` is bound. -/
def contains (d : Dictionary α) (key : String) : Bool := (d.get? key).isSome

/-- The keys in ascending order. -/
def keys (d : Dictionary α) : List String := d.entries.map Prod.fst

/-- The number of entries. -/
def size (d : Dictionary α) : Nat := d.entries.length

/-- Whether there are no entries. -/
def isEmpty (d : Dictionary α) : Bool := d.entries.isEmpty

/-- The dictionary built by inserting entries in order; a later entry wins. -/
def ofList (entries : List (String × α)) : Dictionary α :=
  entries.foldl (fun d (k, v) => d.insert k v) empty

end Dictionary
end ModelSync
