import ModelSync.Text.Pattern
/-!
Log filter directives. A filter is a comma-separated list of directives,
empty items skipped, and the empty filter is valid. A directive is read from
its text with blanks trimmed from both ends:

* it starts with a letter, a digit, `_`, `-`, `:` or `[`;
* a level alone: `off`, `error`, `warn`, `info`, `debug`, `trace` in any case,
  or a number from `0` to `5` with an optional `+` and leading zeros;
* otherwise a target, read up to the first `[` or `=`; then optionally a span
  selector in square brackets; then optionally `=` and a level, where an
  empty level means `error`.

A span selector `[name]` or `[name{fields}]` ends at the first `]` or `{`;
fields run to the first `}`, which the closing `]` follows, and are not
empty. Fields are separated by commas; each is a name and, after `=`, a value
to match. A value that reads as a boolean or a number is matched as one; any
other value is a pattern and must compile.

The layout is found in the trimmed text, but the parts are cut from the text
as given, at the same byte offsets: leading blanks shift every part to the
left by their length. A cut that falls inside a character stops reading
altogether.
-/
namespace ModelSync.LogFilter

/-- The most verbose level a directive lets through. -/
inductive Level where
  | off | error | warn | info | debug | trace
  deriving DecidableEq, Repr

/-- The levels by their number, from `off` at `0` to `trace` at `5`. -/
def Level.ofNumber? : Nat → Option Level
  | 0 => some .off
  | 1 => some .error
  | 2 => some .warn
  | 3 => some .info
  | 4 => some .debug
  | 5 => some .trace
  | _ => none

/-- The value of a run of ASCII digits with an optional leading `+`, if it is one. -/
def unsignedValue? (cs : List Char) : Option Nat :=
  let digits := match cs with
    | '+' :: rest => rest
    | rest => rest
  if !digits.isEmpty && digits.all Char.isDigit then
    some (digits.foldl (fun n d => 10 * n + (d.toNat - 48)) 0)
  else none

/-- Reads a level: a number `0` to `5`, a level's name in any case, or the
empty text, which means `error`. -/
def Level.parse? (text : String) : Option Level :=
  match (unsignedValue? text.toList).filter (· < Nat.pow 2 64) with
  | some n => Level.ofNumber? n
  | none =>
    match Text.asciiLower text with
    | "" => some .error
    | "error" => some .error
    | "warn" => some .warn
    | "info" => some .info
    | "debug" => some .debug
    | "trace" => some .trace
    | "off" => some .off
    | _ => none

/-- A field of a span selector: its name and the value it must have, if any. -/
structure FieldMatch where
  name : String
  value : Option String
  deriving DecidableEq, Repr

/-- One directive of a filter. -/
structure Directive where
  target : Option String
  span : Option String
  fields : List FieldMatch
  level : Level
  deriving DecidableEq, Repr

/-- Why a filter is refused. -/
inductive FilterError where
  /-- A directive of the wrong shape. -/
  | directive
  /-- A level that is not one. -/
  | level
  /-- A field value that is a pattern that does not compile. -/
  | field (reason : Pattern.PatternError)
  /-- A part cut at a byte offset inside a character, which ends reading. -/
  | splitCharacter
  deriving DecidableEq, Repr

/-- The wording of a refusal. -/
def FilterError.message : FilterError → String
  | .directive => "invalid filter directive"
  | .level =>
    "error parsing level filter: expected one of \"off\", \"error\", \"warn\", \"info\", " ++
      "\"debug\", \"trace\", or a number 0-5"
  | .field reason => "invalid field filter: " ++ reason.message
  | .splitCharacter => "byte index is not a char boundary"

/-- Whether a text is a decimal floating-point number: an optional sign, then
`inf`, `infinity` or `nan` in any case, or digits with an optional point and
an optional exponent, with at least one digit before the exponent. -/
def isFloat (cs : List Char) : Bool :=
  let body := match cs with
    | '+' :: rest | '-' :: rest => rest
    | rest => rest
  let word := Text.asciiLower (String.ofList body)
  if word = "inf" ∨ word = "infinity" ∨ word = "nan" then true
  else
    let whole := body.takeWhile Char.isDigit
    let afterWhole := body.dropWhile Char.isDigit
    let (fraction, afterFraction) := match afterWhole with
      | '.' :: rest => (rest.takeWhile Char.isDigit, rest.dropWhile Char.isDigit)
      | rest => ([], rest)
    let exponentOk := match afterFraction with
      | [] => true
      | e :: rest =>
        let digits := match rest with
          | '+' :: r | '-' :: r => r
          | r => r
        (e == 'e' || e == 'E') && !digits.isEmpty && digits.all Char.isDigit
    !(whole.isEmpty && fraction.isEmpty) && exponentOk

/-- Reads a field value: booleans and numbers as they are, any other text as
a pattern that must compile. -/
def checkValue (value : String) : Except FilterError Unit :=
  if value = "true" ∨ value = "false" ∨ isFloat value.toList then .ok ()
  else match Pattern.refusal? value with
    | none => .ok ()
    | some reason => .error (.field reason)

/-- Reads one field: a name, then after the first `=` a value up to the next
`=`, if any. -/
def FieldMatch.parse (text : String) : Except FilterError FieldMatch := do
  match text.splitOn "=" with
  | name :: value :: _ =>
    checkValue value
    pure { name, value := some value }
  | _ => pure { name := text, value := none }

/-- The number of bytes of characters in UTF-8. -/
def byteLength (cs : List Char) : Nat := cs.foldl (fun n c => n + c.utf8Size) 0

/-- The characters after the first `n` bytes, if a character starts there. -/
def dropBytes : Nat → List Char → Option (List Char)
  | 0, cs => some cs
  | _ + 1, [] => none
  | n + 1, c :: cs => if c.utf8Size ≤ n + 1 then dropBytes (n + 1 - c.utf8Size) cs else none

/-- The characters in the first `n` bytes, if a character ends there. -/
def takeBytes : Nat → List Char → Option (List Char)
  | 0, _ => some []
  | _ + 1, [] => none
  | n + 1, c :: cs =>
    if c.utf8Size ≤ n + 1 then (takeBytes (n + 1 - c.utf8Size) cs).map (c :: ·) else none

/-- The characters between two byte offsets, if both fall between characters. -/
def cutBytes (cs : List Char) (start stop : Nat) : Option (List Char) :=
  (dropBytes start cs).bind (takeBytes (stop - start))

/-- Where the parts of a directive lie in its trimmed text, as byte offsets:
the end of the target, the span name, the fields, and the start of the level. -/
structure Layout where
  targetEnd : Nat
  span : Option (Nat × Nat) := none
  fields : Option (Nat × Nat) := none
  level : Option Nat := none
  deriving DecidableEq, Repr

/-- Whether a character may start a directive. -/
def startsDirective (c : Char) : Bool :=
  Text.isAlphanumeric c || c == '_' || c == '-' || c == ':' || c == '['

/-- Finds the parts of a directive that is not a level alone. -/
def Layout.read (text : List Char) : Except FilterError Layout := do
  let target := text.takeWhile fun c => c != '[' && c != '='
  let targetEnd := byteLength target
  match text.dropWhile fun c => c != '[' && c != '=' with
  | [] => pure { targetEnd }
  | '=' :: _ =>
    if target.isEmpty then throw .directive
    pure { targetEnd, level := some (targetEnd + 1) }
  | _ :: selector =>
    let name := selector.takeWhile fun c => c != '{' && c != ']'
    let nameStart := targetEnd + 1
    let nameEnd := nameStart + byteLength name
    let (fields, tail, tailStart) ← match selector.dropWhile fun c => c != '{' && c != ']' with
      | ']' :: tail => pure (none, tail, nameEnd + 1)
      | '{' :: inner =>
        let body := inner.takeWhile (· != '}')
        let bodyEnd := nameEnd + 1 + byteLength body
        match inner.dropWhile (· != '}') with
        | '}' :: ']' :: tail =>
          if body.isEmpty then throw .directive
          pure (some (nameEnd + 1, bodyEnd), tail, bodyEnd + 2)
        | _ => throw .directive
      | _ => throw .directive
    let level ← match tail with
      | [] => pure none
      | '=' :: _ => pure (some (tailStart + 1))
      | _ => throw .directive
    pure { targetEnd, span := some (nameStart, nameEnd), fields, level }

/-- A part cut from the text, or the end of reading if the cut splits a character. -/
def piece (cut : Option (List Char)) : Except FilterError String :=
  match cut with
  | some cs => .ok (String.ofList cs)
  | none => .error .splitCharacter

/-- The text if it is not empty. -/
def nonempty (s : String) : Option String := if s.isEmpty then none else some s

/-- Reads one directive. -/
def Directive.parse (text : String) : Except FilterError Directive := do
  let given := text.toList
  let trimmed := ((given.dropWhile Text.isBlank).reverse.dropWhile Text.isBlank).reverse
  match trimmed with
  | [] => throw .directive
  | c :: _ => if !startsDirective c then throw .directive
  match Level.parse? (String.ofList trimmed) with
  | some level => pure { target := none, span := none, fields := [], level }
  | none =>
    let layout ← Layout.read trimmed
    let target ← piece (cutBytes given 0 layout.targetEnd)
    let span ← match layout.span with
      | some (a, b) => some <$> piece (cutBytes given a b)
      | none => pure none
    let fieldsText ← match layout.fields with
      | some (a, b) => some <$> piece (cutBytes given a b)
      | none => pure none
    let levelText ← match layout.level with
      | some a => some <$> piece (dropBytes a given)
      | none => pure none
    let fields ← match fieldsText with
      | some t => (t.splitOn ",").mapM FieldMatch.parse
      | none => pure []
    let level ← match levelText with
      | some t =>
        match Level.parse? t with
        | some l => pure l
        | none => throw .level
      | none => pure .trace
    pure { target := nonempty target, span := span.bind nonempty, fields, level }

/-- Reads a filter: its nonempty comma-separated directives. -/
def parse (filter : String) : Except FilterError (List Directive) :=
  ((filter.splitOn ",").filter (!·.isEmpty)).mapM Directive.parse


example : Level.ofNumber? 3 = some .info ∧ Level.ofNumber? 6 = none := by decide

example : cutBytes " é=x".toList 0 2 = none ∧ cutBytes " é=x".toList 1 3 = some ['é'] := by decide

end ModelSync.LogFilter
