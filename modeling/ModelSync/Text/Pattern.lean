import ModelSync.Text.Letters
import ModelSync.Text.Blank
/-!
Regular-expression syntax: whether a pattern compiles to a matching
automaton, and if not, why. The syntax is the usual one of groups `( )`,
alternation `|`, classes `[ ]` (with ranges, nested classes, the ASCII classes
`[:alpha:]` and the operators `&&`, `--`, `~~`), repetitions `* + ?` and
`{m}`, `{m,}`, `{m,n}` (each optionally lazy), escapes, capture names
`(?P<name>…)` or `(?<name>…)`, and flag groups `(?imsUuxR-…)` or `(?flags:…)`.

A repetition needs something before it to repeat: not the start of the
pattern, of a group or of an alternative, nor a flag group.

Flags hold to the end of the group that sets them. The automaton is built
without Unicode character data, so in Unicode mode (the default, flag `u`)
the classes `\d`, `\s`, `\w`, every property class `\p…`, and case-insensitive
matching (flag `i`) of a character or a class are refused. Outside Unicode
mode the automaton still reads whole characters, so anything that can match a
byte outside ASCII is refused: `.`, a complemented class, a byte `\x80` and
above. A word boundary (`\b`, `\B`, `\<`, `\>`) in Unicode mode needs the same
data and is refused last, once the rest compiles. In extended mode (flag `x`)
blanks are skipped and `#` starts a comment up to the end of the line.

Reading walks the characters once; `check` gives it one unit of fuel per
character, and every step consumes at least one.
-/
namespace ModelSync.Pattern

/-- Why a pattern is refused. -/
inductive PatternError where
  /-- A group is still open at the end. -/
  | groupUnclosed
  /-- A closing parenthesis with no open group. -/
  | groupUnopened
  /-- A repetition with nothing to repeat, or an empty flag group `(?)`. -/
  | repetitionMissing
  /-- A counted repetition that is not closed, not a number, or decreasing. -/
  | badCount
  /-- A class that is still open at the end. -/
  | classUnclosed
  /-- A class range whose ends are not single characters in order, or an
  assertion inside a class. -/
  | badClassItem
  /-- An escape that ends the pattern, is unknown, is a backreference, or
  writes a code point badly. -/
  | badEscape
  /-- A look-ahead or look-behind group. -/
  | lookAround
  /-- A capture name that is empty, badly spelled, unclosed or repeated. -/
  | badGroupName
  /-- A flag that is unknown, repeated, or a negation with nothing after it. -/
  | badFlag
  /-- A class or a case-insensitive match that needs Unicode character data. -/
  | unicodeData
  /-- Outside Unicode mode, an item that can match a byte beyond ASCII. -/
  | beyondAscii
  /-- A word-boundary assertion in Unicode mode. -/
  | wordBoundary
  deriving DecidableEq, Repr

/-- The wording of a refusal. -/
def PatternError.message : PatternError → String
  | .wordBoundary =>
    "unsupported regex feature for DFAs: cannot build DFAs for regexes with Unicode word " ++
      "boundaries; switch to ASCII word boundaries, or heuristically enable Unicode word " ++
      "boundaries or use a different regex engine"
  | _ => "error building NFA"

/-- The result of reading part of a pattern. -/
abbrev Read := Except PatternError

/-- What an escape sequence stands for. -/
inductive Escape where
  /-- One character; `byte` when it is written as two hexadecimal digits after
  `\x`, which outside Unicode mode names a single byte. -/
  | literal (c : Char) (byte : Bool)
  /-- The class `\d`, `\s` or `\w`, named by its letter, or its complement. -/
  | perl (kind : Char) (negated : Bool)
  /-- A class of a Unicode property, `\p…` or `\P…`. -/
  | property
  /-- The start or end of the text, `\A` or `\z`. -/
  | anchor
  /-- A word-boundary assertion. -/
  | boundary
  deriving DecidableEq, Repr

/-- Whether a character is a hexadecimal digit. -/
def isHex (c : Char) : Bool := c.isDigit || ('a' ≤ c && c ≤ 'f') || ('A' ≤ c && c ≤ 'F')

/-- The value of a hexadecimal digit. -/
def hexValue (c : Char) : Nat :=
  if c.isDigit then c.toNat - 48 else if c ≤ 'F' then c.toNat - 55 else c.toNat - 87

/-- The character with a code point, if it is a Unicode scalar value. -/
def scalar? (n : Nat) : Option Char :=
  if n ≤ 0x10FFFF ∧ ¬(0xD800 ≤ n ∧ n ≤ 0xDFFF) then some (Char.ofNat n) else none

/-- Exactly `n` hexadecimal digits, added to `acc`. -/
def hexFixed : Nat → Nat → List Char → Read (Nat × List Char)
  | 0, acc, cs => .ok (acc, cs)
  | _ + 1, _, [] => .error .badEscape
  | n + 1, acc, c :: cs => if isHex c then hexFixed n (acc * 16 + hexValue c) cs else .error .badEscape

/-- Hexadecimal digits up to a closing brace, at least one. -/
def hexBraced : Bool → Nat → List Char → Read (Nat × List Char)
  | _, _, [] => .error .badEscape
  | any, acc, c :: cs =>
    if c = '}' then (if any then .ok (acc, cs) else .error .badEscape)
    else if isHex c then hexBraced true (acc * 16 + hexValue c) cs
    else .error .badEscape

/-- A code point written in hexadecimal after `\x`, `\u` or `\U`: braced, or
exactly `width` digits. Two digits after `\x` name a byte. -/
def hexEscape (width : Nat) (byte : Bool) (cs : List Char) : Read (Escape × List Char) := do
  let (n, rest, fixed) ← match cs with
    | '{' :: more => do
      let (n, rest) ← hexBraced false 0 more
      pure (n, rest, false)
    | _ => do
      let (n, rest) ← hexFixed width 0 cs
      pure (n, rest, true)
  match scalar? n with
  | some c => pure (.literal c (byte && fixed), rest)
  | none => throw .badEscape

/-- The text up to a closing brace, and what follows it. -/
def untilBrace : List Char → List Char → Option (List Char × List Char)
  | [], _ => none
  | '}' :: rest, acc => some (acc.reverse, rest)
  | c :: rest, acc => untilBrace rest (c :: acc)

/-- One-letter general categories, `\pL` and the like, in either case. -/
def categoryLetters : List Char := ['C', 'L', 'M', 'N', 'P', 'S', 'Z', 'c', 'l', 'm', 'n', 'p', 's', 'z']

/-- A property class after `\p` or `\P`: one category letter, or a nonempty
name in braces. -/
def propertyClass (cs : List Char) : Read (Escape × List Char) :=
  match cs with
  | [] => .error .badEscape
  | '{' :: more =>
    match untilBrace more [] with
    | some (name, rest) => if name.isEmpty then .error .badEscape else .ok (.property, rest)
    | none => .error .badEscape
  | c :: rest => if categoryLetters.contains c then .ok (.property, rest) else .error .badEscape

/-- The named word boundaries of `\b{…}`. -/
def boundaryNames : List String := ["start", "end", "start-half", "end-half"]

/-- Whether a character may spell a named word boundary. -/
def isBoundaryNameChar (c : Char) : Bool := ('a' ≤ c && c ≤ 'z') || ('A' ≤ c && c ≤ 'Z') || c == '-'

/-- What follows `\b`: a named boundary in braces, or a plain boundary, whose
following brace (if any) opens a counted repetition. -/
def afterBoundary (cs : List Char) : Read (Escape × List Char) :=
  match cs with
  | '{' :: c :: more =>
    if isBoundaryNameChar c then
      let name := (c :: more).takeWhile isBoundaryNameChar
      match (c :: more).dropWhile isBoundaryNameChar with
      | '}' :: rest =>
        if boundaryNames.contains (String.ofList name) then .ok (.boundary, rest) else .error .badEscape
      | _ => .error .badEscape
    else .ok (.boundary, cs)
  | ['{'] => .error .badEscape
  | _ => .ok (.boundary, cs)

/-- The characters that mean something unescaped and may always be escaped. -/
def metaChars : List Char :=
  ['\\', '.', '+', '*', '?', '(', ')', '|', '[', ']', '{', '}', '^', '$', '#', '&', '-', '~']

/-- Whether an escaped character stands for itself: a meta character, or an
ASCII character that is neither a letter, a digit, `<` nor `>`. -/
def isEscapable (c : Char) : Bool :=
  metaChars.contains c || (c.toNat < 128 && !c.isAlphanum && c != '<' && c != '>')

/-- An escape sequence after its backslash. -/
def escape (cs : List Char) : Read (Escape × List Char) :=
  match cs with
  | [] => .error .badEscape
  | c :: rest =>
    if c.isDigit then .error .badEscape
    else match c with
      | 'x' => hexEscape 2 true rest
      | 'u' => hexEscape 4 false rest
      | 'U' => hexEscape 8 false rest
      | 'p' | 'P' => propertyClass rest
      | 'd' | 's' | 'w' => .ok (.perl c false, rest)
      | 'D' => .ok (.perl 'd' true, rest)
      | 'S' => .ok (.perl 's' true, rest)
      | 'W' => .ok (.perl 'w' true, rest)
      | 'a' => .ok (.literal '\x07' false, rest)
      | 'f' => .ok (.literal '\x0c' false, rest)
      | 't' => .ok (.literal '\t' false, rest)
      | 'n' => .ok (.literal '\n' false, rest)
      | 'r' => .ok (.literal '\r' false, rest)
      | 'v' => .ok (.literal '\x0b' false, rest)
      | 'A' | 'z' => .ok (.anchor, rest)
      | 'b' => afterBoundary rest
      | 'B' | '<' | '>' => .ok (.boundary, rest)
      | _ => if isEscapable c then .ok (.literal c false, rest) else .error .badEscape

/-- The flags that decide what a part of a pattern means. -/
structure Flags where
  /-- Unicode mode: items match characters, and their classes are Unicode's. -/
  unicode : Bool := true
  /-- Case-insensitive matching. -/
  caseless : Bool := false
  /-- Extended mode: blanks and comments are skipped. -/
  extended : Bool := false
  deriving DecidableEq, Repr

/-- The flags after a flag group's items, each a flag letter and whether it
is set or cleared. -/
def Flags.apply (f : Flags) : List (Char × Bool) → Flags
  | [] => f
  | (c, on) :: rest =>
    let f := match c with
      | 'u' => { f with unicode := on }
      | 'i' => { f with caseless := on }
      | 'x' => { f with extended := on }
      | _ => f
    f.apply rest

/-- The text after blanks and `#` comments; `comment` when inside a comment,
which runs through the end of its line. -/
def skipSpace : Bool → List Char → List Char
  | _, [] => []
  | true, c :: rest => skipSpace (c != '\n') rest
  | false, c :: rest =>
    if Text.isBlank c then skipSpace false rest
    else if c = '#' then skipSpace true rest
    else c :: rest

/-- Skipping space never lengthens the text. -/
theorem skipSpace_length_le (comment : Bool) (cs : List Char) :
    (skipSpace comment cs).length ≤ cs.length := by
  induction cs generalizing comment with
  | nil => cases comment <;> simp [skipSpace]
  | cons c rest ih =>
    cases comment
    · simp only [skipSpace]
      split
      · exact Nat.le_succ_of_le (ih false)
      · split
        · exact Nat.le_succ_of_le (ih true)
        · exact Nat.le_refl _
    · exact Nat.le_succ_of_le (ih _)

/-- The text from the next item on: in extended mode past blanks and
comments, otherwise as it is. -/
def Flags.space (f : Flags) (cs : List Char) : List Char :=
  if f.extended then skipSpace false cs else cs

/-- Moving to the next item never lengthens the text. -/
theorem Flags.space_length_le (f : Flags) (cs : List Char) : (f.space cs).length ≤ cs.length := by
  unfold Flags.space
  split
  · exact skipSpace_length_le false cs
  · exact Nat.le_refl _

/-- Outside a class, whether an item is refused under the flags, and if not,
whether it asserts a word boundary that needs Unicode data. -/
def Flags.single (f : Flags) : Escape → Read Bool
  | .literal c byte =>
    if f.unicode then (if f.caseless then .error .unicodeData else .ok false)
    else if byte && 128 ≤ c.toNat then .error .beyondAscii
    else .ok false
  | .perl _ negated =>
    if f.unicode then .error .unicodeData else if negated then .error .beyondAscii else .ok false
  | .property => .error .unicodeData
  | .anchor => .ok false
  | .boundary => .ok f.unicode

/-- Inside a class, whether an item is refused under the flags, and if not,
whether it takes in bytes beyond ASCII. -/
def Flags.member (f : Flags) : Escape → Read Bool
  | .literal c _ => if f.unicode || c.toNat < 128 then .ok false else .error .beyondAscii
  | .perl _ negated =>
    if f.unicode then .error .unicodeData else if negated then .error .beyondAscii else .ok false
  | .property => .error .unicodeData
  | .anchor | .boundary => .error .badClassItem

/-- The names of the ASCII classes `[:name:]`. -/
def asciiClassNames : List String :=
  ["alnum", "alpha", "ascii", "blank", "cntrl", "digit", "graph", "lower", "print", "punct",
   "space", "upper", "word", "xdigit"]

/-- An ASCII class `[:name:]` or `[:^name:]` whose opening bracket is already
read, if one is there: whether it is complemented, and the rest. -/
def asciiClass (cs : List Char) : Option (Bool × List Char) :=
  match cs with
  | ':' :: more =>
    let (negated, body) := match more with
      | '^' :: r => (true, r)
      | r => (false, r)
    let name := body.takeWhile (· != ':')
    match body.dropWhile (· != ':') with
    | ':' :: ']' :: rest =>
      if asciiClassNames.contains (String.ofList name) then some (negated, rest) else none
    | _ => none
  | _ => none

/-- The text after leading `-` items of a class, each taken literally. -/
def Flags.dropDashes (f : Flags) (cs : List Char) : List Char :=
  match cs with
  | '-' :: rest => f.dropDashes (f.space rest)
  | rest => rest
termination_by cs.length
decreasing_by
  have := f.space_length_le rest
  simp only [List.length_cons]
  omega

/-- The start of a class after its opening bracket: whether an `^`
complements it, then any number of `-`, or else a `]`, all taken literally. -/
def Flags.classStart (f : Flags) (cs : List Char) : Read (Bool × List Char) := do
  let cs := f.space cs
  if cs.isEmpty then throw .classUnclosed
  let (negated, cs) := match cs with
    | '^' :: r => (true, f.space r)
    | r => (false, r)
  if cs.isEmpty then throw .classUnclosed
  let afterDashes := f.dropDashes cs
  if afterDashes.length < cs.length then
    if afterDashes.isEmpty then throw .classUnclosed
    pure (negated, afterDashes)
  else match cs with
    | ']' :: r => if (f.space r).isEmpty then throw .classUnclosed else pure (negated, f.space r)
    | r => pure (negated, r)

/-- One item of a class: an escape or a character. -/
def classItem (cs : List Char) : Read (Escape × List Char) :=
  match cs with
  | '\\' :: rest => escape rest
  | c :: rest => .ok (.literal c false, rest)
  | [] => .error .classUnclosed

/-- A class item or range `a-z`, both ends single characters in order:
whether it takes in bytes beyond ASCII, and the rest. A `-` before `]` or
another `-` starts no range. -/
def Flags.classRange (f : Flags) (cs : List Char) : Read (Bool × List Char) := do
  let (first, rest) ← classItem cs
  let rest := f.space rest
  match rest with
  | [] => throw .classUnclosed
  | '-' :: after =>
    match f.space after with
    | ']' :: _ | '-' :: _ => pure (← f.member first, rest)
    | [] => throw .classUnclosed
    | after =>
      let (last, more) ← classItem after
      match first, last with
      | .literal a _, .literal b _ =>
        if b < a then throw .badClassItem
        if f.unicode || b.toNat < 128 then pure (false, more) else throw .beyondAscii
      | _, _ => throw .badClassItem
  | _ => pure (← f.member first, rest)

/-- A class being read: the items before the last operator (`&&`, `--` or
`~~`) with that operator, and the items since. Each is kept as whether it
takes in bytes beyond ASCII; outside Unicode mode a class holds either all of
them or none, since its single characters are ASCII. -/
structure ClassAcc where
  before : Option (Char × Bool) := none
  since : Bool := false
  deriving DecidableEq, Repr

/-- The class so far. -/
def ClassAcc.value (acc : ClassAcc) : Bool :=
  match acc.before with
  | none => acc.since
  | some ('&', a) => a && acc.since
  | some ('-', a) => a && !acc.since
  | some (_, a) => a != acc.since

/-- The class after one more item. -/
def ClassAcc.add (acc : ClassAcc) (wide : Bool) : ClassAcc := { acc with since := acc.since || wide }

/-- The class after an operator. -/
def ClassAcc.push (acc : ClassAcc) (op : Char) : ClassAcc := { before := some (op, acc.value) }

mutual
/-- Reads a class after its opening bracket, through its closing bracket:
whether it takes in bytes beyond ASCII, and the rest. -/
def Flags.classSet : Nat → Flags → List Char → Read (Bool × List Char)
  | 0, _, _ => .error .classUnclosed
  | fuel + 1, f, cs => do
    let (negated, start) ← f.classStart cs
    let (inner, rest) ← Flags.classItems fuel f {} start
    if f.unicode && f.caseless then throw .unicodeData
    let wide := inner != negated
    if !f.unicode && wide then throw .beyondAscii
    pure (wide, rest)

/-- Reads the items of a class through its closing bracket. -/
def Flags.classItems : Nat → Flags → ClassAcc → List Char → Read (Bool × List Char)
  | 0, _, _, _ => .error .classUnclosed
  | fuel + 1, f, acc, cs =>
    match f.space cs with
    | [] => .error .classUnclosed
    | ']' :: rest => .ok (acc.value, rest)
    | '[' :: rest =>
      match asciiClass rest with
      | some (negated, after) => Flags.classItems fuel f (acc.add negated) after
      | none => do
        let (wide, after) ← Flags.classSet fuel f rest
        Flags.classItems fuel f (acc.add wide) after
    | '&' :: '&' :: rest => Flags.classItems fuel f (acc.push '&') rest
    | '-' :: '-' :: rest => Flags.classItems fuel f (acc.push '-') rest
    | '~' :: '~' :: rest => Flags.classItems fuel f (acc.push '~') rest
    | c :: rest => do
      let (wide, after) ← f.classRange (c :: rest)
      Flags.classItems fuel f (acc.add wide) after
end

/-- The digits of a repetition count with blanks around them, if any digit is
there, and what follows. -/
def count (cs : List Char) : Option Nat × List Char :=
  let start := cs.dropWhile Text.isBlank
  let digits := start.takeWhile Char.isDigit
  let rest := (start.dropWhile Char.isDigit).dropWhile Text.isBlank
  if digits.isEmpty then (none, rest)
  else (some (digits.foldl (fun n d => 10 * n + (d.toNat - 48)) 0), rest)

/-- The largest repetition count. -/
def maxCount : Nat := Nat.pow 2 32 - 1

/-- A counted repetition after its opening brace: `{m}`, `{m,}` or `{m,n}`
with `m ≤ n`, and an optional `?`. -/
def countedRepetition (cs : List Char) : Read (List Char) := do
  if cs.isEmpty then throw .badCount
  let (low, rest) := count cs
  let (high, rest) ← match rest with
    | [] => throw .badCount
    | ',' :: [] => throw .badCount
    | ',' :: '}' :: more => do
      let some lo := low | throw .badCount
      pure (some lo, '}' :: more)
    | ',' :: more => do
      let some _ := low | throw .badCount
      let (hi, more) := count more
      let some h := hi | throw .badCount
      pure (some h, more)
    | more => do
      let some lo := low | throw .badCount
      pure (some lo, more)
  match rest with
  | '}' :: after =>
    let lo := low.getD 0
    let hi := high.getD lo
    if maxCount < lo ∨ maxCount < hi ∨ hi < lo then throw .badCount
    match after with
    | '?' :: more => pure more
    | more => pure more
  | _ => throw .badCount

/-- Whether a character may spell a capture name, first or later. -/
def isNameChar (first : Bool) (c : Char) : Bool :=
  c == '_' || (if first then Text.isAlphabetic c
    else c == '.' || c == '[' || c == ']' || Text.isAlphanumeric c)

/-- A capture name up to `>`, nonempty. -/
def captureName : List Char → List Char → Read (String × List Char)
  | [], _ => .error .badGroupName
  | c :: rest, acc =>
    if c = '>' then
      (if acc.isEmpty then .error .badGroupName else .ok (String.ofList acc.reverse, rest))
    else if isNameChar acc.isEmpty c then captureName rest (c :: acc)
    else .error .badGroupName

/-- The flag letters. -/
def flagLetters : List Char := ['i', 'm', 's', 'U', 'u', 'x', 'R']

/-- The items of a flag group up to `:` or `)`, each a letter and whether it
is set, with the closing character and the rest. A flag may appear once, and
a negation once and not last. -/
def flags : List Char → List (Char × Bool) → Bool → Bool →
    Read (List (Char × Bool) × Char × List Char)
  | [], _, _, _ => .error .badFlag
  | c :: rest, seen, negated, dangling =>
    if c = ':' ∨ c = ')' then
      (if dangling then .error .badFlag else .ok (seen.reverse, c, rest))
    else if c = '-' then
      (if negated then .error .badFlag else flags rest seen true true)
    else if flagLetters.contains c then
      (if seen.any (·.1 == c) then .error .badFlag
        else flags rest ((c, !negated) :: seen) negated false)
    else .error .badFlag

/-- What the reader knows of the pattern so far. -/
structure Scan where
  /-- The flags in force. -/
  flags : Flags := {}
  /-- The flags of the enclosing groups, innermost first, one per open group. -/
  outer : List Flags := []
  /-- Whether the last item can take a repetition. -/
  repeatable : Bool := false
  /-- Capture names given so far. -/
  names : List String := []
  /-- Whether a word boundary that needs Unicode data was asserted. -/
  boundary : Bool := false
  deriving DecidableEq, Repr

/-- The scan after one item that can be repeated. -/
def Scan.item (s : Scan) : Scan := { s with repeatable := true }

/-- The scan after a group opens, keeping the flags to restore at its end. -/
def Scan.enter (s : Scan) : Scan :=
  { s with outer := s.flags :: s.outer, repeatable := false }

/-- Reads a pattern from `s`, one construct per unit of fuel. -/
def scan : Nat → Scan → List Char → Read Scan
  | 0, s, _ => .ok s
  | fuel + 1, s, cs =>
    match s.flags.space cs with
    | [] => if s.outer.isEmpty then .ok s else .error .groupUnclosed
    | c :: rest =>
      match c with
      | '(' =>
        match s.flags.space rest with
        | '?' :: '=' :: _ | '?' :: '!' :: _ | '?' :: '<' :: '=' :: _ | '?' :: '<' :: '!' :: _ =>
          .error .lookAround
        | '?' :: 'P' :: '<' :: more | '?' :: '<' :: more => do
          let (name, after) ← captureName more []
          if s.names.contains name then throw .badGroupName
          scan fuel { s.enter with names := name :: s.names } after
        | '?' :: more => do
          let (items, close, after) ← flags more [] false false
          if close = ')' then
            if items.isEmpty then throw .repetitionMissing
            scan fuel { s with flags := s.flags.apply items, repeatable := false } after
          else scan fuel { s.enter with flags := s.flags.apply items } after
        | inner => scan fuel s.enter inner
      | ')' =>
        match s.outer with
        | [] => .error .groupUnopened
        | saved :: outer => scan fuel { s with flags := saved, outer, repeatable := true } rest
      | '|' => scan fuel { s with repeatable := false } rest
      | '[' => do
        let (_, after) ← Flags.classSet (2 * rest.length + 2) s.flags rest
        scan fuel s.item after
      | '?' | '*' | '+' =>
        if s.repeatable then
          match rest with
          | '?' :: after => scan fuel s after
          | after => scan fuel s after
        else .error .repetitionMissing
      | '{' => if s.repeatable then do scan fuel s (← countedRepetition rest)
        else .error .repetitionMissing
      | '\\' => do
        let (e, after) ← escape rest
        let boundary ← s.flags.single e
        scan fuel { s.item with boundary := s.boundary || boundary } after
      | '.' => if s.flags.unicode then scan fuel s.item rest else .error .beyondAscii
      | '^' | '$' => scan fuel s.item rest
      | _ => do
        let _ ← s.flags.single (.literal c false)
        scan fuel s.item rest

/-- Whether a pattern compiles, and if not, the first reason it does not. -/
def check (pattern : String) : Except PatternError Unit := do
  let cs := pattern.toList
  let s ← scan (cs.length + 1) {} cs
  if s.boundary then throw .wordBoundary

/-- The first reason a pattern does not compile, if any. -/
def refusal? (pattern : String) : Option PatternError :=
  match check pattern with
  | .ok () => none
  | .error e => some e

example : refusal? "a(b|c)*[x-z]{2,3}?" = none := by decide +kernel

example : refusal? "(" = some .groupUnclosed ∧ refusal? "x)" = some .groupUnopened ∧
    refusal? "*" = some .repetitionMissing := by decide +kernel

example : refusal? "\\d" = some .unicodeData ∧ refusal? "(?-u)\\d" = none ∧
    refusal? "(?-u)." = some .beyondAscii := by decide +kernel

end ModelSync.Pattern
