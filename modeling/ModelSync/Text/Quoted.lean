import ModelSync.Text.Printable
/-!
Text quoted for an error message: between double quotes, with the quote and
the backslash escaped, the null, tab, line feed and carriage return by their
short forms, and characters that do not print (control and format characters,
unassigned and private-use code points, combining marks that would attach to
the preceding character) as `\u{…}` with lowercase hex digits and no padding.
Which characters print is decided by `printable` and `graphemeExtend`.
-/
namespace ModelSync.Text

/-- Hexadecimal digits of a number, lowercase, without leading zeros. -/
def hexDigits (n : Nat) : List Char :=
  (Nat.toDigits 16 n)

/-- The escaped form of one character in quoted text. -/
def quoteChar (c : Char) : List Char :=
  if c = '"' then ['\\', '"']
  else if c = '\\' then ['\\', '\\']
  else if c = '\n' then ['\\', 'n']
  else if c = '\r' then ['\\', 'r']
  else if c = '\t' then ['\\', 't']
  else if c.toNat = 0 then ['\\', '0']
  else if printable c && !graphemeExtend c then [c]
  else ['\\', 'u', '\x7b'] ++ hexDigits c.toNat ++ ['\x7d']

/-- A string between double quotes, escaped as error messages show it. -/
def quoted (s : String) : String :=
  String.ofList ('"' :: (s.toList.flatMap quoteChar ++ ['"']))

example : quoted "a\"b\n" = "\"a\\\"b\\n\"" := by decide +kernel

end ModelSync.Text
