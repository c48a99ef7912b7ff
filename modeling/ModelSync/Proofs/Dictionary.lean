import ModelSync.Dictionary
import Mathlib.Data.String.Basic
/-!
Inserting into a sorted dictionary.

`Dictionary.insertEntry` walks the entries to the first key not below the new
one and binds the key there. Looking a key up afterwards finds the new value
for that key and the old answer for every other key
(`Dictionary.lookup_insertEntry`); binding a key twice keeps the last value
(`Dictionary.insertEntry_insertEntry_self`); on strictly ascending keys,
membership and lookup agree and binding two different keys gives the same
entries in either order (`Dictionary.insertEntry_comm`) and erasing a key
filters out its one entry (`Dictionary.eraseEntry_eq_filter`); and where a key
goes depends on the keys alone (`Dictionary.keys_insertEntry_congr`).

A dictionary carries its ascending keys, so it is determined by its lookups
(`Dictionary.eq_of_get?`), and binding a list of keys a second time changes
nothing (`Dictionary.foldl_insert_idem`).
-/
namespace ModelSync.Dictionary

variable {α : Type}

theorem lookup_cons (key k : String) (v : α) (rest : List (String × α)) :
    ((k, v) :: rest).lookup key = if key = k then some v else rest.lookup key := by
  by_cases same : key = k
  · simp [same]
  · have differ : (key == k) = false := by simpa using same
    simp [same, List.lookup_cons, differ]

/-- After binding `key`, a lookup finds the new value for `key` and the old
answer for any other key. -/
theorem lookup_insertEntry (key k : String) (value : α) (entries : List (String × α)) :
    (insertEntry key value entries).lookup k = if k = key then some value else entries.lookup k := by
  induction entries with
  | nil => simp [insertEntry, lookup_cons]
  | cons head rest ih =>
    obtain ⟨k', v'⟩ := head
    unfold insertEntry
    by_cases same : key = k'
    · subst same
      by_cases hit : k = key <;> simp [lookup_cons, hit]
    · by_cases before : key < k'
      · simp only [same, before, if_false, if_true, lookup_cons]
      · simp only [same, before, if_false, lookup_cons, ih]
        by_cases hit : k = key
        · subst hit; simp [same]
        · simp [hit]

/-- An entry after binding a key is the new binding or one that was there. -/
theorem mem_insertEntry {key : String} {value : α} {entries : List (String × α)} {x : String × α}
    (mem : x ∈ insertEntry key value entries) : x = (key, value) ∨ x ∈ entries := by
  induction entries with
  | nil => simpa [insertEntry] using mem
  | cons head rest ih =>
    obtain ⟨k, v⟩ := head
    unfold insertEntry at mem
    by_cases same : key = k
    · -- the old binding of the key is dropped
      simp only [same, if_true, List.mem_cons] at mem ⊢
      exact mem.imp id .inr
    · by_cases before : key < k
      · simpa [same, before] using mem
      · simp only [same, before, if_false, List.mem_cons] at mem ⊢
        rcases mem with here | later
        · exact .inr (.inl here)
        · exact (ih later).imp id .inr

/-- Binding a key twice keeps only the last value. -/
theorem insertEntry_insertEntry_self (key : String) (first last : α) (entries : List (String × α)) :
    insertEntry key last (insertEntry key first entries) = insertEntry key last entries := by
  induction entries with
  | nil => simp [insertEntry]
  | cons head rest ih =>
    obtain ⟨k', v'⟩ := head
    by_cases same : key = k'
    · subst same
      simp [insertEntry]
    · by_cases before : key < k'
      · simp [insertEntry, same, before]
      · simp [insertEntry, same, before, ih]

/-- No entry is under a key below every key of the entries. -/
theorem fst_ne_of_below {j : String} {entries : List (String × α)} (below : ∀ k ∈ entries.map Prod.fst, j < k)
    {e : String × α} (mem : e ∈ entries) : e.1 ≠ j :=
  (ne_of_lt (below e.1 (List.mem_map.mpr ⟨e, mem, rfl⟩))).symm

theorem lookup_eq_none_of_below {j : String} {entries : List (String × α)}
    (below : ∀ k ∈ entries.map Prod.fst, j < k) : entries.lookup j = none := by
  rw [List.lookup_eq_none_iff]
  intro e mem
  simpa using (fst_ne_of_below below mem).symm

theorem lookup_eq_some_iff_mem {entries : List (String × α)} (sorted : Sorted entries) {k : String}
    {v : α} : entries.lookup k = some v ↔ (k, v) ∈ entries := by
  induction entries with
  | nil => simp
  | cons head rest ih =>
    obtain ⟨k', v'⟩ := head
    obtain ⟨above, sortedRest⟩ := sorted_cons.mp sorted
    rw [lookup_cons]
    by_cases same : k = k'
    · subst same
      -- the key is not among the later ones, which are all above it
      have absent : (k, v) ∉ rest := fun mem => fst_ne_of_below above mem rfl
      simp [absent, eq_comm]
    · simp [same, ih sortedRest]

/-- Entries with strictly ascending keys are determined by their lookups. -/
theorem eq_of_lookup {entries other : List (String × α)} (sorted : Sorted entries)
    (sortedOther : Sorted other) (same : ∀ k, entries.lookup k = other.lookup k) :
    entries = other := by
  induction entries generalizing other with
  | nil =>
    cases other with
    | nil => rfl
    | cons head rest =>
      obtain ⟨k, v⟩ := head
      have found := same k
      rw [lookup_cons, if_pos rfl] at found
      cases found
  | cons head rest ih =>
    obtain ⟨k, v⟩ := head
    obtain ⟨above, sortedRest⟩ := sorted_cons.mp sorted
    cases other with
    | nil =>
      have found := same k
      rw [lookup_cons, if_pos rfl] at found
      cases found
    | cons head' rest' =>
      obtain ⟨k', v'⟩ := head'
      obtain ⟨above', sortedRest'⟩ := sorted_cons.mp sortedOther
      -- a key below every key of one side is found on the other side only at its head
      have heads : k = k' := by
        rcases lt_trichotomy k k' with lt | eq | gt
        · have found := same k
          rw [lookup_cons, lookup_cons, if_pos rfl, if_neg (ne_of_lt lt),
            lookup_eq_none_of_below fun k'' mem => lt_trans lt (above' k'' mem)] at found
          cases found
        · exact eq
        · have found := same k'
          rw [lookup_cons, lookup_cons, if_pos rfl, if_neg (ne_of_lt gt),
            lookup_eq_none_of_below fun k'' mem => lt_trans gt (above k'' mem)] at found
          cases found
      subst heads
      have values : v = v' := by
        simpa [lookup_cons] using same k
      subst values
      -- below the head, both sides answer alike: at `k` neither holds it again
      have rests : ∀ j, rest.lookup j = rest'.lookup j := by
        intro j
        by_cases hit : j = k
        · subst hit
          rw [lookup_eq_none_of_below above, lookup_eq_none_of_below above']
        · have := same j
          rwa [lookup_cons, lookup_cons, if_neg hit, if_neg hit] at this
      rw [ih sortedRest sortedRest' rests]

/-- On entries with strictly ascending keys, binding two different keys gives
the same entries in either order. -/
theorem insertEntry_comm {a b : String} (differ : a ≠ b) (x y : α) {entries : List (String × α)}
    (sorted : Sorted entries) :
    insertEntry a x (insertEntry b y entries) = insertEntry b y (insertEntry a x entries) := by
  refine eq_of_lookup (sorted_insertEntry (sorted_insertEntry sorted))
    (sorted_insertEntry (sorted_insertEntry sorted)) fun k => ?_
  simp only [lookup_insertEntry]
  by_cases ka : k = a
  · subst ka
    simp [differ]
  · simp [ka]

/-- Binding a key in two entry lists with the same keys gives lists with the
same keys: where a key goes depends on the keys alone. -/
theorem keys_insertEntry_congr {β : Type} (key : String) (a : α) (b : β) :
    ∀ {entries : List (String × α)} {other : List (String × β)},
      entries.map Prod.fst = other.map Prod.fst →
      (insertEntry key a entries).map Prod.fst = (insertEntry key b other).map Prod.fst
  | [], [], _ => rfl
  | [], _ :: _, same | _ :: _, [], same => by simp at same
  | (k, _) :: rest, (k', _) :: rest', same => by
    simp only [List.map_cons, List.cons.injEq] at same
    obtain ⟨rfl, sameRest⟩ := same
    unfold insertEntry
    by_cases hit : key = k
    · simp [hit, sameRest]
    · by_cases before : key < k
      · simp [hit, before, sameRest]
      · simp [hit, before, keys_insertEntry_congr key a b sameRest]

/-- On entries with strictly ascending keys, erasing a key removes every
entry under that key. -/
theorem eraseEntry_eq_filter (key : String) :
    ∀ {entries : List (String × α)}, Sorted entries → eraseEntry key entries = entries.filter fun e => e.1 != key
  | [], _ => rfl
  | (k, v) :: rest, sorted => by
    obtain ⟨above, sortedRest⟩ := sorted_cons.mp sorted
    by_cases same : key = k
    · subst same
      -- the later entries are all above the key, so none of them is removed
      have kept : rest.filter (fun e => e.1 != key) = rest := by
        refine List.filter_eq_self.mpr fun e mem => ?_
        simpa using fst_ne_of_below above mem
      simp [eraseEntry, kept]
    · have differ : (k != key) = true := by simpa using Ne.symm same
      simp [eraseEntry, same, differ, eraseEntry_eq_filter key sortedRest]

/-! ## Dictionaries

A dictionary carries the order of its keys, so the facts above that need
ascending keys hold of every dictionary. -/

@[ext] theorem ext {d d' : Dictionary α} (same : d.entries = d'.entries) : d = d' := by
  cases d
  cases d'
  cases same
  rfl

/-- A dictionary is determined by its lookups. -/
theorem eq_of_get? {d d' : Dictionary α} (same : ∀ k, d.get? k = d'.get? k) : d = d' :=
  ext (eq_of_lookup d.sorted d'.sorted same)

@[simp] theorem get?_empty (k : String) : (empty : Dictionary α).get? k = none := rfl

@[simp] theorem get?_insert (d : Dictionary α) (key k : String) (value : α) :
    (d.insert key value).get? k = if k = key then some value else d.get? k :=
  lookup_insertEntry key k value d.entries

/-- Erasing a key removes its entry and keeps the others in order. -/
@[simp] theorem entries_erase (d : Dictionary α) (key : String) :
    (d.erase key).entries = d.entries.filter fun e => e.1 != key :=
  eraseEntry_eq_filter key d.sorted

theorem mem_entries_iff_get? {d : Dictionary α} {k : String} {v : α} : (k, v) ∈ d.entries ↔ d.get? k = some v :=
  (lookup_eq_some_iff_mem d.sorted).symm

/-- Binding a key twice keeps only the last value. -/
@[simp] theorem insert_insert_self (d : Dictionary α) (key : String) (first last : α) :
    (d.insert key first).insert key last = d.insert key last :=
  ext (insertEntry_insertEntry_self key first last d.entries)

/-- Binding two different keys gives the same dictionary in either order. -/
theorem insert_comm {a b : String} (differ : a ≠ b) (x y : α) (d : Dictionary α) :
    (d.insert b y).insert a x = (d.insert a x).insert b y :=
  ext (insertEntry_comm differ x y d.sorted)

/-- The keys after binding one depend only on the keys before. -/
theorem keys_insert_congr {β : Type} {d : Dictionary α} {d' : Dictionary β} (same : d.keys = d'.keys)
    (key : String) (a : α) (b : β) : (d.insert key a).keys = (d'.insert key b).keys :=
  keys_insertEntry_congr key a b same

/-- Binding keys one after another: a lookup finds the last value bound to the
key, if any, and the old answer otherwise. -/
theorem get?_foldl_insert (bound : List (String × α)) (d : Dictionary α) (k : String) :
    (bound.foldl (fun d kv => d.insert kv.1 kv.2) d).get? k = (bound.reverse.lookup k).or (d.get? k) := by
  induction bound generalizing d with
  | nil => simp
  | cons kv rest ih =>
    rw [List.foldl_cons, ih, get?_insert, List.reverse_cons, List.lookup_append, Option.or_assoc]
    obtain ⟨key, value⟩ := kv
    by_cases hit : k = key <;> simp [lookup_cons, hit]

/-- Binding the same keys and values a second time changes nothing. -/
theorem foldl_insert_idem (bound : List (String × α)) (d : Dictionary α) :
    bound.foldl (fun d kv => d.insert kv.1 kv.2) (bound.foldl (fun d kv => d.insert kv.1 kv.2) d) =
      bound.foldl (fun d kv => d.insert kv.1 kv.2) d :=
  eq_of_get? fun k => by
    rw [get?_foldl_insert, get?_foldl_insert, ← Option.or_assoc, Option.or_self]

end ModelSync.Dictionary
