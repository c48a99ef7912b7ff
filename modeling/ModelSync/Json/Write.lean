import ModelSync.Json.Value
/-!
Compact JSON text: no blanks, object members in key order, non-ASCII
characters written as they are. Inside strings the quote, the backslash and
the control characters below U+0020 are escaped: seven of them by their short
forms (`\"`, `\\`, `\n`, `\r`, `\t`, `\b`, `\f`), the others as `\u00XX` with
lowercase hex digits.
-/
namespace ModelSync.JsonValue

/-- A lowercase hexadecimal digit. -/
def hexDigit (n : Nat) : Char :=
  if n < 10 then Char.ofNat (48 + n) else Char.ofNat (87 + n)

/-- The escaped form of one character inside a JSON string. -/
def escapeChar (c : Char) : List Char :=
  if c = '"' then ['\\', '"']
  else if c = '\\' then ['\\', '\\']
  else if c = '\n' then ['\\', 'n']
  else if c = '\r' then ['\\', 'r']
  else if c = '\t' then ['\\', 't']
  else if c.toNat = 8 then ['\\', 'b']
  else if c.toNat = 12 then ['\\', 'f']
  else if c.toNat < 0x20 then ['\\', 'u', '0', '0', hexDigit (c.toNat / 16), hexDigit (c.toNat % 16)]
  else [c]

/-- A string as a JSON string literal. -/
def quote (s : String) : String :=
  String.ofList ('"' :: (s.toList.flatMap escapeChar ++ ['"']))

mutual

/-- Compact JSON text of a value. -/
def render : JsonValue → String
  | null => "null"
  | bool true => "true"
  | bool false => "false"
  | number n => n.toText
  | string s => quote s
  | array items => "[" ++ renderItems items ++ "]"
  | object members => "\x7b" ++ renderMembers members ++ "\x7d"

/-- Array items separated by commas. -/
def renderItems : List JsonValue → String
  | [] => ""
  | [v] => render v
  | v :: rest => render v ++ "," ++ renderItems rest

/-- Object members separated by commas. -/
def renderMembers : List (String × JsonValue) → String
  | [] => ""
  | [(k, v)] => quote k ++ ":" ++ render v
  | (k, v) :: rest => quote k ++ ":" ++ render v ++ "," ++ renderMembers rest

end

example : render (ofMembers [("b", nat 1), ("a", string "x\n")]) = "\x7b\"a\":\"x\\n\",\"b\":1\x7d" := by
  decide

end ModelSync.JsonValue
