import ModelSync.Json.Value
/-!
Reading JSON text. The grammar is the standard one; what this reader decides
beyond it is how a numeral becomes a number:

* an integral numeral stays an integer while its significand fits 64 bits; a
  negative one while its magnitude is at most `2^63` and nonzero (`-0` is the
  binary64 negative zero);
* any other numeral becomes a binary64 number in two roundings: its first
  significant digits, as many as fit 64 bits, are rounded to a binary64
  number, which is then multiplied or divided by the binary64 number nearest
  to the power of ten that places the decimal point (in steps of `10^308`
  below that range). Digits past the 64-bit significand are dropped, and a
  result past the largest finite number is an error.

Nesting deeper than 127 arrays or objects is refused.
-/
namespace ModelSync.JsonRead

/-- Why a text is not a JSON value. -/
inductive ReadError where
  | unexpectedEnd
  | unexpected (c : Char)
  | invalidNumber
  | numberOutOfRange
  | invalidEscape
  | controlCharacter
  | trailingCharacters
  | tooDeep
  | exhausted
  deriving Repr

/-- The largest 64-bit unsigned integer. -/
def u64Max : Nat := Nat.pow 2 64 - 1

/-- The largest 32-bit signed integer. -/
def i32Max : Nat := Nat.pow 2 31 - 1

/-- Whether `acc * 10 + d` exceeds `limit`. -/
def overflows (limit acc d : Nat) : Bool :=
  limit / 10 ≤ acc && (limit / 10 < acc || limit % 10 < d)

/-- The value of a decimal digit character. -/
def digitValue (c : Char) : Nat := c.toNat - 48

/-- Clamp to the 32-bit signed range. -/
def saturate32 (n : Int) : Int :=
  if n < -Int.pow 2 31 then -Int.pow 2 31 else if Int.pow 2 31 - 1 < n then Int.pow 2 31 - 1 else n

/-- Blanks between tokens: space, tab, line feed, carriage return. -/
def skipBlanks : List Char → List Char
  | c :: rest => if c = ' ' ∨ c = '\t' ∨ c = '\n' ∨ c = '\r' then skipBlanks rest else c :: rest
  | [] => []

/-- `sig * 10 ^ exp` as a binary64 number in the two roundings described above. -/
def scaleByTen (fuel : Nat) (f : Binary64) (exp : Int) : Except ReadError Binary64 :=
  match fuel with
  | 0 => .ok f
  | fuel + 1 =>
    if exp.natAbs ≤ 308 then
      if 0 ≤ exp then
        let g := f.mul (Binary64.pow10 exp.toNat)
        if g.isFinite then .ok g else .error .numberOutOfRange
      else .ok (f.div (Binary64.pow10 exp.natAbs))
    else if f.isZero then .ok f
    else if 0 ≤ exp then .error .numberOutOfRange
    else scaleByTen fuel (f.div (Binary64.pow10 308)) (exp + 308)

/-- The binary64 number for the numeral `±sig × 10^exp`. -/
def fromParts (positive : Bool) (sig : Nat) (exp : Int) : Except ReadError JsonNumber := do
  let g ← scaleByTen (exp.natAbs / 308 + 2) (Binary64.ofNat sig) exp
  pure (.float (if positive then g else g.neg))

/-- Integer digits folded into a 64-bit significand: the significand, the
number of digits dropped once it would overflow, and the rest of the text. -/
def integerDigits (sig : Nat) : List Char → Nat × Nat × List Char
  | c :: rest =>
    if c.isDigit then
      if overflows u64Max sig (digitValue c) then
        ((c :: rest).takeWhile Char.isDigit |>.length, sig, (c :: rest).dropWhile Char.isDigit)
          |> fun (dropped, s, r) => (s, dropped, r)
      else integerDigits (sig * 10 + digitValue c) rest
    else (sig, 0, c :: rest)
  | [] => (sig, 0, [])

/-- Fraction digits folded into the significand: the significand, the number
of digits folded in, whether any digit was read, and the rest of the text. -/
def fractionDigits (sig : Nat) (folded : Nat) (seen : Bool) : List Char → Nat × Nat × Bool × List Char
  | c :: rest =>
    if c.isDigit then
      if overflows u64Max sig (digitValue c) then (sig, folded, true, rest.dropWhile Char.isDigit)
      else fractionDigits (sig * 10 + digitValue c) (folded + 1) true rest
    else (sig, folded, seen, c :: rest)
  | [] => (sig, folded, seen, [])

/-- Exponent digits folded into a 32-bit value: the value and whether it would
have overflowed, and the rest of the text. -/
def exponentDigits (acc : Nat) : List Char → Nat × Bool × List Char
  | c :: rest =>
    if c.isDigit then
      if overflows i32Max acc (digitValue c) then (acc, true, rest.dropWhile Char.isDigit)
      else exponentDigits (acc * 10 + digitValue c) rest
    else (acc, false, c :: rest)
  | [] => (acc, false, [])

/-- The exponent part after `e` or `E`, applied to `sig × 10^start`. -/
def readExponent (positive : Bool) (sig : Nat) (start : Int) (cs : List Char) :
    Except ReadError (JsonNumber × List Char) :=
  let (expPositive, cs) :=
    match cs with
    | '+' :: rest => (true, rest)
    | '-' :: rest => (false, rest)
    | other => (true, other)
  match cs with
  | c :: _ =>
    if c.isDigit then
      let (e, overflowed, rest) := exponentDigits 0 cs
      if overflowed then
        if sig ≠ 0 ∧ expPositive then .error .numberOutOfRange
        else .ok (.float (Binary64.zero (!positive)), rest)
      else
        let final := saturate32 (if expPositive then start + e else start - e)
        (fromParts positive sig final).map fun n => (n, rest)
    else .error .invalidNumber
  | [] => .error .unexpectedEnd

/-- What follows the significand digits: a fraction, an exponent, or nothing. -/
def readNumberTail (positive : Bool) (sig : Nat) (dropped : Nat) (cs : List Char) :
    Except ReadError (JsonNumber × List Char) :=
  match cs with
  | '.' :: rest =>
    let (sig', folded, seen, rest') := fractionDigits sig 0 false rest
    if !seen then (if rest'.isEmpty then .error .unexpectedEnd else .error .invalidNumber)
    else
      let exp : Int := (dropped : Int) - folded
      match rest' with
      | 'e' :: r => readExponent positive sig' exp r
      | 'E' :: r => readExponent positive sig' exp r
      | _ => (fromParts positive sig' exp).map fun n => (n, rest')
  | 'e' :: rest => readExponent positive sig dropped rest
  | 'E' :: rest => readExponent positive sig dropped rest
  | _ =>
    if dropped ≠ 0 then (fromParts positive sig dropped).map fun n => (n, cs)
    else if positive then .ok (.integer sig, cs)
    else if sig = 0 then .ok (.float (Binary64.zero true), cs)
    else if sig ≤ Nat.pow 2 63 then .ok (.integer (-(sig : Int)), cs)
    else .ok (.float (Binary64.ofNat sig).neg, cs)

/-- A numeral, from its first character. -/
def readNumber (cs : List Char) : Except ReadError (JsonNumber × List Char) :=
  let (positive, cs) := match cs with
    | '-' :: rest => (false, rest)
    | other => (true, other)
  match cs with
  | '0' :: rest =>
    match rest with
    | c :: _ => if c.isDigit then .error .invalidNumber else readNumberTail positive 0 0 rest
    | [] => readNumberTail positive 0 0 rest
  | c :: _ =>
    if c.isDigit then
      let (sig, dropped, rest) := integerDigits 0 cs
      readNumberTail positive sig dropped rest
    else .error .invalidNumber
  | [] => .error .unexpectedEnd

/-- The value of a hexadecimal digit. -/
def hexValue (c : Char) : Option Nat :=
  if c.isDigit then some (c.toNat - 48)
  else if 'a' ≤ c ∧ c ≤ 'f' then some (c.toNat - 87)
  else if 'A' ≤ c ∧ c ≤ 'F' then some (c.toNat - 55)
  else none

/-- The value of four hexadecimal digits. -/
def hex4 (a b c d : Char) : Option Nat :=
  match hexValue a, hexValue b, hexValue c, hexValue d with
  | some a, some b, some c, some d => some (((a * 16 + b) * 16 + c) * 16 + d)
  | _, _, _, _ => none

/-- The characters of a string literal after its opening quote, up to and
without the closing quote. -/
def readStringBody : List Char → List Char → Except ReadError (String × List Char)
  | [], _ => .error .unexpectedEnd
  | '"' :: rest, acc => .ok (String.ofList acc.reverse, rest)
  | '\\' :: '"' :: r, acc => readStringBody r ('"' :: acc)
  | '\\' :: '\\' :: r, acc => readStringBody r ('\\' :: acc)
  | '\\' :: '/' :: r, acc => readStringBody r ('/' :: acc)
  | '\\' :: 'b' :: r, acc => readStringBody r (Char.ofNat 8 :: acc)
  | '\\' :: 'f' :: r, acc => readStringBody r (Char.ofNat 12 :: acc)
  | '\\' :: 'n' :: r, acc => readStringBody r ('\n' :: acc)
  | '\\' :: 'r' :: r, acc => readStringBody r ('\r' :: acc)
  | '\\' :: 't' :: r, acc => readStringBody r ('\t' :: acc)
  | '\\' :: 'u' :: a :: b :: c :: d :: r, acc =>
    match hex4 a b c d with
    | none => .error .invalidEscape
    | some hi =>
      if 0xD800 ≤ hi ∧ hi < 0xDC00 then
        match r with
        | '\\' :: 'u' :: a' :: b' :: c' :: d' :: r' =>
          match hex4 a' b' c' d' with
          | some lo =>
            if 0xDC00 ≤ lo ∧ lo < 0xE000 then
              readStringBody r' (Char.ofNat (0x10000 + (hi - 0xD800) * 0x400 + (lo - 0xDC00)) :: acc)
            else .error .invalidEscape
          | none => .error .invalidEscape
        | _ => .error .invalidEscape
      else if 0xDC00 ≤ hi ∧ hi < 0xE000 then .error .invalidEscape
      else readStringBody r (Char.ofNat hi :: acc)
  | '\\' :: _, _ => .error .invalidEscape
  | c :: rest, acc =>
    if c.toNat < 0x20 then .error .controlCharacter else readStringBody rest (c :: acc)

/-- The rest of a literal word such as `true`. -/
def expectWord (word : List Char) (cs : List Char) : Except ReadError (List Char) :=
  if word.isPrefixOf cs then .ok (cs.drop word.length)
  else match cs with
    | [] => .error .unexpectedEnd
    | c :: _ => .error (.unexpected c)

mutual

/-- One value. `fuel` bounds the calls (each follows at least one character
read) and `depth` the containers that may still be opened. -/
def readValue : Nat → Nat → List Char → Except ReadError (JsonValue × List Char)
  | 0, _, _ => .error .exhausted
  | fuel + 1, depth, cs =>
    match skipBlanks cs with
    | [] => .error .unexpectedEnd
    | 'n' :: rest => (expectWord ['u', 'l', 'l'] rest).map fun r => (.null, r)
    | 't' :: rest => (expectWord ['r', 'u', 'e'] rest).map fun r => (.bool true, r)
    | 'f' :: rest => (expectWord ['a', 'l', 's', 'e'] rest).map fun r => (.bool false, r)
    | '"' :: rest => (readStringBody rest []).map fun (s, r) => (.string s, r)
    | '[' :: rest =>
      if depth ≤ 1 then .error .tooDeep
      else match skipBlanks rest with
        | ']' :: r => .ok (.array [], r)
        | r => readItems fuel (depth - 1) r []
    | '{' :: rest =>
      if depth ≤ 1 then .error .tooDeep
      else match skipBlanks rest with
        | '}' :: r => .ok (.object [], r)
        | r => readMembers fuel (depth - 1) r []
    | c :: rest =>
      if c = '-' ∨ c.isDigit then (readNumber (c :: rest)).map fun (n, r) => (.number n, r)
      else .error (.unexpected c)

/-- Array items after the opening bracket, the first one present. -/
def readItems : Nat → Nat → List Char → List JsonValue → Except ReadError (JsonValue × List Char)
  | 0, _, _, _ => .error .exhausted
  | fuel + 1, depth, cs, acc =>
    match readValue fuel depth cs with
    | .error e => .error e
    | .ok (v, rest) =>
      match skipBlanks rest with
      | ',' :: r => readItems fuel depth r (v :: acc)
      | ']' :: r => .ok (.array (v :: acc).reverse, r)
      | [] => .error .unexpectedEnd
      | c :: _ => .error (.unexpected c)

/-- Object members after the opening brace, the first one present; of two
members with one key the later wins. -/
def readMembers : Nat → Nat → List Char → List (String × JsonValue) →
    Except ReadError (JsonValue × List Char)
  | 0, _, _, _ => .error .exhausted
  | fuel + 1, depth, cs, acc =>
    match skipBlanks cs with
    | '"' :: rest =>
      match readStringBody rest [] with
      | .error e => .error e
      | .ok (key, rest) =>
        match skipBlanks rest with
        | ':' :: rest =>
          match readValue fuel depth rest with
          | .error e => .error e
          | .ok (v, rest) =>
            let acc := JsonValue.insertMember key v acc
            match skipBlanks rest with
            | ',' :: r => readMembers fuel depth r acc
            | '}' :: r => .ok (.object acc, r)
            | [] => .error .unexpectedEnd
            | c :: _ => .error (.unexpected c)
        | [] => .error .unexpectedEnd
        | c :: _ => .error (.unexpected c)
    | [] => .error .unexpectedEnd
    | c :: _ => .error (.unexpected c)

end

end ModelSync.JsonRead

namespace ModelSync.JsonValue

/-- The value a whole text denotes; blanks may surround it, nothing else may. -/
def parse (text : String) : Except JsonRead.ReadError JsonValue :=
  let cs := text.toList
  match JsonRead.readValue (2 * cs.length + 4) 128 cs with
  | .error e => .error e
  | .ok (v, rest) =>
    match JsonRead.skipBlanks rest with
    | [] => .ok v
    | _ => .error .trailingCharacters

end ModelSync.JsonValue
