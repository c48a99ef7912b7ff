/-!
Blank characters: the Unicode `White_Space` property, which decides what
trimming removes and where a whitespace-separated list is cut. The property
has twenty-five code points, listed here as ranges.
-/
namespace ModelSync.Text

/-- The code point ranges of the Unicode `White_Space` property. -/
def blankRanges : List (Nat × Nat) :=
  [(0x09, 0x0D), (0x20, 0x20), (0x85, 0x85), (0xA0, 0xA0), (0x1680, 0x1680),
   (0x2000, 0x200A), (0x2028, 0x2029), (0x202F, 0x202F), (0x205F, 0x205F),
   (0x3000, 0x3000)]

/-- Whether a character has the Unicode `White_Space` property. -/
def isBlank (c : Char) : Bool :=
  blankRanges.any fun (lo, hi) => lo ≤ c.toNat && c.toNat ≤ hi

/-- The characters with leading and trailing blanks removed. -/
def trimBlanks (s : String) : String :=
  String.ofList ((s.toList.dropWhile isBlank).reverse.dropWhile isBlank).reverse

/-- The characters with trailing blanks removed. -/
def trimEndBlanks (s : String) : String :=
  String.ofList (s.toList.reverse.dropWhile isBlank).reverse

/-- The characters with leading blanks removed. -/
def trimStartBlanks (s : String) : String :=
  String.ofList (s.toList.dropWhile isBlank)

/-- The maximal runs of non-blank characters, in order. -/
def blankSeparated (s : String) : List String :=
  ((s.toList.splitBy fun a b => isBlank a == isBlank b).filter fun run =>
    !(run.all isBlank)).map String.ofList

/-- Letters `a` to `z` mapped to `A` to `Z`; every other character kept. -/
def asciiUpper (s : String) : String := s.map Char.toUpper

/-- Letters `A` to `Z` mapped to `a` to `z`; every other character kept. -/
def asciiLower (s : String) : String := s.map Char.toLower

end ModelSync.Text
