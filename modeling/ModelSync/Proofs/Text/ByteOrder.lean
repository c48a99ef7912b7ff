import Mathlib.Tactic.SplitIfs
/-!
String order is UTF-8 byte order.

Strings compare by their code points (`String.lt_iff`), while a reader that
sees only the encoded text compares the UTF-8 bytes one at a time. The two
orders agree (`Text.lt_iff_toUTF8_lt`). UTF-8 is laid out for this: a longer
encoding starts with a higher lead byte, and encodings of one length carry the
code point's base-64 digits from the most significant down. So the first byte
where the encodings of two code points differ lies inside both and already
decides between them, whatever follows (`Text.utf8EncodeChar_append_lt`), and
concatenated encodings compare as the code point lists do.

Names kept strictly ascending as strings are therefore strictly ascending as
bytes (`Text.ascending_toUTF8`).
-/
namespace ModelSync.Text

open String (utf8EncodeChar)

theorem toNat_val_lt (c : Char) : c.val.toNat < 0x110000 := by
  have valid := c.valid
  simp only [UInt32.isValidChar, Nat.isValidChar] at valid
  omega

/-- Two byte strings of one length keep their order whatever follows them. -/
theorem append_lt_append_of_lt {xs ys : List UInt8} (lt : xs < ys) (len : xs.length = ys.length)
    (X Y : List UInt8) : xs ++ X < ys ++ Y := by
  induction xs generalizing ys with
  | nil =>
    cases ys with
    | nil => exact absurd lt (List.lt_irrefl _)
    | cons => simp at len
  | cons a xs ih =>
    cases ys with
    | nil => simp at len
    | cons b ys =>
      rcases List.cons_lt_cons_iff.mp lt with head | ⟨rfl, tail⟩
      · exact List.cons_lt_cons_iff.mpr (.inl head)
      · exact List.cons_lt_cons_iff.mpr (.inr ⟨rfl, ih tail (by simpa using len)⟩)

theorem append_lt_append_left_iff {pre xs ys : List UInt8} : pre ++ xs < pre ++ ys ↔ xs < ys := by
  induction pre with
  | nil => rfl
  | cons b pre ih => simpa using ih

/-- The encoding of a lower code point sorts below that of a higher one, and
the byte that decides it lies inside both, so it stays below whatever follows
the two. -/
theorem utf8EncodeChar_append_lt {c d : Char} (lt : c < d) (X Y : List UInt8) :
    utf8EncodeChar c ++ X < utf8EncodeChar d ++ Y := by
  have hc := toNat_val_lt c
  have hd := toNat_val_lt d
  rw [Char.lt_def, UInt32.lt_iff_toNat_lt] at lt
  simp only [utf8EncodeChar]
  generalize c.val.toNat = v at *
  generalize d.val.toNat = w at *
  -- omega does not relate nested quotients by itself
  have v₁ : v / 64 / 64 = v / 4096 := Nat.div_div_eq_div_mul v 64 64
  have v₂ : v / 4096 / 64 = v / 262144 := Nat.div_div_eq_div_mul v 4096 64
  have w₁ : w / 64 / 64 = w / 4096 := Nat.div_div_eq_div_mul w 64 64
  have w₂ : w / 4096 / 64 = w / 262144 := Nat.div_div_eq_div_mul w 4096 64
  -- one case per pair of encoding lengths
  split_ifs
  all_goals first
    -- the lower code point cannot have the longer encoding
    | omega
    -- different lengths: the lead bytes already differ
    | exact List.cons_lt_cons_iff.mpr (.inl (by simp [UInt8.lt_iff_toNat_lt, UInt8.toNat_ofNat]; omega))
    -- one length: the digits compare from the most significant down
    | (refine append_lt_append_of_lt ?_ (by simp) X Y
       simp (disch := omega) [List.cons_lt_cons_iff, UInt8.lt_iff_toNat_lt, UInt8.toNat_ofNat,
         ← UInt8.toNat_inj, Nat.mod_eq_of_lt]
       omega)

/-- Concatenated encodings compare as the lists of code points do. -/
theorem flatMap_utf8EncodeChar_lt_iff {l₁ l₂ : List Char} :
    l₁.flatMap utf8EncodeChar < l₂.flatMap utf8EncodeChar ↔ l₁ < l₂ := by
  induction l₁ generalizing l₂ with
  | nil =>
    cases l₂ with
    | nil => exact iff_of_false (List.lt_irrefl _) (List.lt_irrefl _)
    | cons d r =>
      -- every encoding has a byte, so the empty list sorts first on both sides
      obtain ⟨b, bs, enc⟩ := List.exists_cons_of_ne_nil (String.utf8EncodeChar_ne_nil (c := d))
      simp [enc, List.nil_lt_cons]
  | cons c r ih =>
    cases l₂ with
    | nil => exact iff_of_false (List.not_lt_nil _) (List.not_lt_nil _)
    | cons d r' =>
      simp only [List.flatMap_cons, List.cons_lt_cons_iff]
      rcases Std.lt_trichotomy c d with below | rfl | above
      · exact iff_of_true (utf8EncodeChar_append_lt below _ _) (.inl below)
      · rw [append_lt_append_left_iff, ih]
        simp only [Char.lt_irrefl, false_or, true_and]
      · refine iff_of_false (List.lt_asymm (utf8EncodeChar_append_lt above _ _)) ?_
        rintro (below | ⟨rfl, -⟩)
        · exact Char.lt_asymm above below
        · exact Char.lt_irrefl _ above

/-- The bytes of a string are the encodings of its characters, one after
another. -/
theorem toUTF8_data_toList (s : String) :
    s.toUTF8.data.toList = s.toList.flatMap utf8EncodeChar := by
  rw [String.toUTF8_eq_toByteArray, ← String.utf8Encode_toList, List.utf8Encode,
    List.toList_data_toByteArray]

/-- Strings compare as their UTF-8 bytes do. -/
theorem lt_iff_toUTF8_lt {s t : String} : s < t ↔ s.toUTF8.data.toList < t.toUTF8.data.toList := by
  rw [String.lt_iff, toUTF8_data_toList, toUTF8_data_toList, flatMap_utf8EncodeChar_lt_iff]

/-- Strings compare as their UTF-8 bytes do, ties included. -/
theorem le_iff_toUTF8_le {s t : String} :
    s ≤ t ↔ s.toUTF8.data.toList ≤ t.toUTF8.data.toList := by
  rw [← String.not_lt, ← List.not_lt, lt_iff_toUTF8_lt]

/-- Names strictly ascending as strings are strictly ascending as UTF-8 bytes. -/
theorem ascending_toUTF8 {names : List String} (ascending : names.Pairwise (· < ·)) :
    (names.map fun n => n.toUTF8.data.toList).Pairwise (· < ·) :=
  List.pairwise_map.mpr (ascending.imp lt_iff_toUTF8_lt.mp)

end ModelSync.Text
