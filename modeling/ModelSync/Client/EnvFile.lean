import ModelSync.Text.Blank
import ModelSync.Text.Letters
/-!
Environment files: `KEY=value` lines that set environment variables which
are not already set.

Reading goes in two passes. The first joins physical lines into logical
ones: a quote left open carries the line on, a blank followed by `#` starts a
comment that ends the line, and a line whose text starts with `#` is empty.
A file that ends inside a quote, or right after a blank with no newline, is
refused with the whole unfinished text.

The second parses each logical line: blanks are skipped; a key starts with an
ASCII letter or `_` and goes on with ASCII letters, digits, `_` and `.`; an
optional `export` comes before it; then `=` and the value. In a value,
single quotes keep text as it is, double quotes allow escapes and
substitution, a backslash escapes one of `\ ' " $` and blank or turns `n` into
a newline, `$NAME` and `${NAME}` are replaced by the variable's value (the
environment first, then the file's earlier values, else nothing), and an
unquoted blank ends the value, after which only blanks and a comment may
follow. A key error counts bytes from the start of the line; a value error
reports the value and counts characters, or, for an unclosed quote or brace,
the value's last byte.

Lines are applied one by one, so a variable set by an earlier line is seen by
later substitutions; the first bad line stops the reading, and what came
before it stays applied.
-/
namespace ModelSync.EnvFile

/-- A line that could not be read, and the position where reading failed. -/
structure LineError where
  line : String
  index : Nat
  deriving DecidableEq, Repr

/-- The message of a line failure. -/
def LineError.message (e : LineError) : String :=
  "Error parsing line: '" ++ e.line ++ "', error at line index: " ++ toString e.index

/-- The byte length of some characters in UTF-8. -/
def byteLength (cs : List Char) : Nat := cs.foldl (fun n c => n + c.utf8Size) 0

/-! ## Logical lines -/

/-- Where the scan of a line stands: inside a quote, after an escape, after a
blank, at a comment, or at a complete point. -/
inductive ScanState where
  | complete
  | escape
  | strongOpen
  | strongOpenEscape
  | weakOpen
  | weakOpenEscape
  | comment
  | blank
  deriving DecidableEq, Repr

/-- The state after one character. -/
def ScanState.step : ScanState → Char → ScanState
  | .blank, c =>
    if c = '#' then .comment else if c = '\\' then .escape else if c = '"' then .weakOpen
    else if c = '\'' then .strongOpen else .complete
  | .escape, _ => .complete
  | .complete, c =>
    if Text.isBlank c && c != '\n' && c != '\r' then .blank else if c = '\\' then .escape
    else if c = '"' then .weakOpen else if c = '\'' then .strongOpen else .complete
  | .weakOpen, c => if c = '\\' then .weakOpenEscape else if c = '"' then .complete else .weakOpen
  | .weakOpenEscape, _ => .weakOpen
  | .strongOpen, c =>
    if c = '\\' then .strongOpenEscape else if c = '\'' then .complete else .strongOpen
  | .strongOpenEscape, _ => .strongOpen
  | .comment, _ => .comment

/-- The state at the end of a chunk, and where a comment starts in it, in characters. -/
def scan (state : ScanState) (index : Nat) : List Char → ScanState × Nat
  | [] => (state, index)
  | c :: rest =>
    match state.step c with
    | .comment => (.comment, index)
    | next => scan next (index + 1) rest

/-- The physical lines, each with its newline; the last may have none. -/
def physicalLines (current : List Char) : List Char → List (List Char)
  | [] => if current.isEmpty then [] else [current.reverse]
  | '\n' :: rest => ('\n' :: current).reverse :: physicalLines [] rest
  | c :: rest => physicalLines (c :: current) rest

/-- A line without its final newline, or carriage return and newline. -/
def stripNewline (line : List Char) : List Char :=
  match line.reverse with
  | '\n' :: '\r' :: rest => rest.reverse
  | '\n' :: rest => rest.reverse
  | _ => line

/-- The logical lines, up to and including the first failure. -/
def logicalLines (state : ScanState) (pending : List Char) :
    List (List Char) → List (Except LineError (List Char))
  | [] =>
    if state = .complete then []
    else [.error ⟨String.ofList pending, byteLength pending⟩]
  | line :: rest =>
    let joined := pending ++ line
    if (joined.dropWhile Text.isBlank).head? = some '#' then .ok [] :: logicalLines .complete [] rest
    else
      match scan state 0 line with
      | (.complete, _) => .ok (stripNewline joined) :: logicalLines .complete [] rest
      | (.comment, i) => .ok (pending ++ line.take i) :: logicalLines .complete [] rest
      | (next, _) => logicalLines next joined rest

/-! ## Values -/

/-- Where a substitution stands. -/
inductive Substitution where
  | off
  | name
  | braced
  deriving DecidableEq, Repr

/-- The state of reading a value. -/
structure ValueScan where
  strong : Bool := false
  weak : Bool := false
  escaped : Bool := false
  expectingEnd : Bool := false
  substitution : Substitution := .off
  name : String := ""
  output : String := ""

/-- What earlier lines of the file set, the latest first. -/
abbrev FileValues := List (String × String)

/-- The value of a name in the environment, read as the process reads its
variables: the rest of the first entry `key=value` whose text starts with the
name and `=`. A name that holds `=` thus reaches into a value. -/
def environmentValue (env : List (String × String)) (name : String) : Option String :=
  let wanted := (name ++ "=").toList
  env.findSome? fun (key, value) =>
    let entry := (key ++ "=" ++ value).toList
    if wanted.isPrefixOf entry then some (String.ofList (entry.drop wanted.length)) else none

/-- The value a substitution inserts: the environment's, else the file's, else nothing. -/
def substitute (env : List (String × String)) (file : FileValues) (name : String) : String :=
  match environmentValue env name with
  | some v => v
  | none => (file.lookup name).getD ""

/-- The output with the pending substitution applied and the name cleared. -/
def ValueScan.applyName (s : ValueScan) (env : List (String × String)) (file : FileValues) :
    ValueScan :=
  { s with output := s.output ++ substitute env file s.name, name := "" }

/-- Reads the characters of a value; `index` counts characters. -/
def scanValue (env : List (String × String)) (file : FileValues) (input : String) :
    ValueScan → Nat → List Char → Except LineError ValueScan
  | s, _, [] => .ok s
  | s, index, c :: rest =>
    let proceed (s : ValueScan) := scanValue env file input s (index + 1) rest
    if s.expectingEnd then
      if c = ' ' || c = '\t' then proceed s
      else if c = '#' then .ok s
      else .error ⟨input, index⟩
    else if s.escaped then
      if c = '\\' || c = '\'' || c = '"' || c = '$' || c = ' ' then
        proceed { s with output := s.output.push c, escaped := false }
      else if c = 'n' then proceed { s with output := s.output.push '\n', escaped := false }
      else .error ⟨input, index⟩
    else if s.strong then
      if c = '\'' then proceed { s with strong := false }
      else proceed { s with output := s.output.push c }
    else if s.substitution != .off then
      if Text.isAlphanumeric c then proceed { s with name := s.name.push c }
      else if s.substitution = .name then
        if c = '\x7b' && s.name.isEmpty then proceed { s with substitution := .braced }
        else
          let s := s.applyName env file
          if c = '$' then proceed { s with substitution := .name }
          else proceed { s with substitution := .off, output := s.output.push c }
      else if c = '\x7d' then proceed { s.applyName env file with substitution := .off }
      else proceed { s with name := s.name.push c }
    else if c = '$' then proceed { s with substitution := .name }
    else if s.weak then
      if c = '"' then proceed { s with weak := false }
      else if c = '\\' then proceed { s with escaped := true }
      else proceed { s with output := s.output.push c }
    else if c = '\'' then proceed { s with strong := true }
    else if c = '"' then proceed { s with weak := true }
    else if c = '\\' then proceed { s with escaped := true }
    else if c = ' ' || c = '\t' then proceed { s with expectingEnd := true }
    else proceed { s with output := s.output.push c }

/-- Reads a value. -/
def parseValue (env : List (String × String)) (file : FileValues) (input : String) :
    Except LineError String := do
  let s ← scanValue env file input {} 0 input.toList
  if s.substitution = .braced || s.strong || s.weak then
    throw ⟨input, input.utf8ByteSize - 1⟩
  else pure (s.applyName env file).output

/-! ## Lines -/

/-- Whether a character may proceed a key. -/
def isKeyChar (c : Char) : Bool := c.isAlphanum || c == '_' || c == '.'

/-- The text after leading blanks, and the position after them. -/
def skipBlanks (line : List Char) (pos : Nat) : List Char × Nat :=
  let blanks := line.takeWhile Text.isBlank
  (line.drop blanks.length, pos + byteLength blanks)

/-- A key at the front, the rest and the position after it. -/
def parseKey (fullLine : String) (line : List Char) (pos : Nat) :
    Except LineError (String × List Char × Nat) :=
  match line with
  | c :: _ =>
    if c.isAlpha || c == '_' then
      let key := line.takeWhile isKeyChar
      .ok (String.ofList key, line.drop key.length, pos + byteLength key)
    else .error ⟨fullLine, pos⟩
  | [] => .error ⟨fullLine, pos⟩

/-- The rest after a `=` at the front. -/
def expectEqual (fullLine : String) (line : List Char) (pos : Nat) :
    Except LineError (List Char × Nat) :=
  match line with
  | '=' :: rest => .ok (rest, pos + 1)
  | _ => .error ⟨fullLine, pos⟩

/-- Whether nothing but a comment is left. -/
def isEmptyOrComment (line : List Char) : Bool :=
  match line with
  | [] => true
  | c :: _ => c = '#'

/-- Reads one logical line: `none` for an empty or comment line, otherwise
the key and its value. -/
def parseLine (env : List (String × String)) (file : FileValues) (fullLine : String) :
    Except LineError (Option (String × String)) := do
  let (line, pos) := skipBlanks (Text.trimEndBlanks fullLine).toList 0
  if isEmptyOrComment line then return none
  let (key, line, pos) ← parseKey fullLine line pos
  let (line, pos) := skipBlanks line pos
  let (key, line, pos) ←
    if key = "export" then
      match expectEqual fullLine line pos with
      | .ok (line, pos) => pure (key, line, pos)
      | .error _ => do
        let (key, line, pos) ← parseKey fullLine line pos
        let (line, pos) := skipBlanks line pos
        let (line, pos) ← expectEqual fullLine line pos
        pure (key, line, pos)
    else do
      let (line, pos) ← expectEqual fullLine line pos
      pure (key, line, pos)
  let (line, _) := skipBlanks line pos
  if isEmptyOrComment line then return some (key, "")
  let value ← parseValue env file (String.ofList line)
  return some (key, value)

/-- The environment after applying the lines, and the failure that stopped them. -/
def applyLines (env : List (String × String)) (file : FileValues) :
    List (Except LineError (List Char)) → List (String × String) × Option LineError
  | [] => (env, none)
  | .error e :: _ => (env, some e)
  | .ok line :: rest =>
    match parseLine env file (String.ofList line) with
    | .error e => (env, some e)
    | .ok none => applyLines env file rest
    | .ok (some (key, value)) =>
      let file := (key, value) :: file
      let env := if (env.lookup key).isSome then env else env ++ [(key, value)]
      applyLines env file rest

/-- The environment after loading a file's text into it, and the failure that
stopped the loading, if any. A leading byte order mark is skipped. -/
def load (env : List (String × String)) (text : String) : List (String × String) × Option LineError :=
  let chars := match text.toList with
    | '\uFEFF' :: rest => rest
    | cs => cs
  applyLines env [] (logicalLines .complete [] (physicalLines [] chars))

end ModelSync.EnvFile
