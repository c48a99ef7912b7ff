/-!
Sets of characters given as lists of code point ranges, the form of the
Unicode property tables of this library. A range `(lo, hi)` holds the code
points from `lo` to `hi`, both included.
-/
namespace ModelSync.Text

/-- Whether a character lies in one of the ranges. -/
def inRanges (ranges : List (Nat × Nat)) (c : Char) : Bool :=
  ranges.any fun (lo, hi) => lo ≤ c.toNat && c.toNat ≤ hi

end ModelSync.Text
