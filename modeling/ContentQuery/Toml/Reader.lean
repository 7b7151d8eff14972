import ContentQuery.Text.Reader
import ContentQuery.Toml.Scalar
import ContentQuery.Toml.Table

/-!
# Reading TOML

A reader for TOML 1.1 documents. A document is a sequence of lines, each of which holds an entry, a
header or nothing; `Toml.parse?` gives the entries of its root table.
-/

namespace ContentQuery.Toml

open ContentQuery.Text

/-- Spaces and tabs. -/
def isSpace (char : Char) : Bool :=
  char == ' ' || char == '\t'

/-- Control characters that may stand in no text and in no comment. -/
def isControl (char : Char) : Bool :=
  (char.toNat < 0x20 && char != '\t') || char.toNat == 0x7F

/-- Characters of keys without quotes. -/
def isBareKeyChar (char : Char) : Bool :=
  char.isAlphanum || char == '_' || char == '-'

/-- Characters of values without quotes: all but blanks, line ends and the marks that structure a
document. -/
def isScalarChar (char : Char) : Bool :=
  !(['=', ',', '[', ']', '\x7b', '\x7d', '#', ' ', '\t', '\r', '\n'].contains char)

/-- Passes over spaces within a line. -/
def skipSpaces : Reader Unit := do
  let _ ← Reader.takeWhile isSpace

/-- Takes the end of a line if it comes next, and tells whether it did. -/
def acceptNewline : Reader Bool := do
  if ← Reader.accept ['\n'] then return true
  Reader.accept ['\r', '\n']

/-- Takes a comment if one comes next. -/
def skipComment : Reader Unit := do
  if ← Reader.accept ['#'] then
    let _ ← Reader.takeWhile (!isControl ·)

/-- Passes over spaces, comments and line ends. -/
def skipLines : Nat → Reader Unit
  | 0 => pure ()
  | fuel + 1 => do
    skipSpaces
    skipComment
    if ← acceptNewline then skipLines fuel

/-- The character that an escape stands for. -/
def escape : Reader Char := do
  match ← Reader.next with
  | 'b' => return '\x08'
  | 't' => return '\t'
  | 'n' => return '\n'
  | 'f' => return '\x0C'
  | 'r' => return '\r'
  | 'e' => return '\x1B'
  | '\x22' => return '\x22'
  | '\\' => return '\\'
  | 'x' => Reader.character (← Reader.hex 2 0)
  | 'u' => Reader.character (← Reader.hex 4 0)
  | 'U' => Reader.character (← Reader.hex 8 0)
  | _ => failure

/-- The characters of a text with escapes, up to its closing quote. -/
def basicChars : Nat → Reader (List Char)
  | 0 => failure
  | fuel + 1 => do
    match ← Reader.next with
    | '\x22' => return []
    | '\\' =>
      let char ← escape
      return char :: (← basicChars fuel)
    | char =>
      if isControl char then failure
      return char :: (← basicChars fuel)

/-- The characters of a text without escapes, up to its closing quote. -/
def literalChars : Reader (List Char) := do
  let chars ← Reader.takeWhile fun char => char != '\x27' && !isControl char
  Reader.expect ['\x27']
  return chars

/-- The quotes that end a text of several lines; up to two of them belong to the text. -/
def closingQuotes (quote : Char) : Reader (Option (List Char)) := do
  let quotes := (← Reader.remaining).takeWhile (· == quote)
  if quotes.length < 3 then return none
  let count := min quotes.length 5
  Reader.expect (List.replicate count quote)
  return some (List.replicate (count - 3) quote)

/-- Passes over the blanks after a backslash at the end of a line. -/
def skipFolded : Nat → Reader Unit
  | 0 => pure ()
  | fuel + 1 => do
    skipSpaces
    if ← acceptNewline then skipFolded fuel

/-- The characters of a text of several lines, up to its closing quotes. -/
def multilineChars (quote : Char) : Nat → Reader (List Char)
  | 0 => failure
  | fuel + 1 => do
    if let some chars ← closingQuotes quote then return chars
    if ← Reader.accept ['\n'] then return '\n' :: (← multilineChars quote fuel)
    if ← Reader.accept ['\r', '\n'] then return '\r' :: '\n' :: (← multilineChars quote fuel)
    let char ← Reader.next
    if char == '\\' && quote == '\x22' then
      let after := (← Reader.remaining).dropWhile isSpace
      if after.head? == some '\n' || after.head? == some '\r' then
        skipSpaces
        if !(← acceptNewline) then failure
        skipFolded fuel
        multilineChars quote fuel
      else
        let char ← escape
        return char :: (← multilineChars quote fuel)
    else if isControl char then failure
    else return char :: (← multilineChars quote fuel)

/-- A text of one line, if one comes next. -/
def quotedLine? (fuel : Nat) : Reader (Option String) := do
  if ← Reader.accept ['\x22'] then return some (String.ofList (← basicChars fuel))
  if ← Reader.accept ['\x27'] then return some (String.ofList (← literalChars))
  return none

/-- A text of several lines, if one comes next. A line end right after the opening quotes does not
belong to it. -/
def quotedLines? (fuel : Nat) : Reader (Option String) := do
  for quote in ['\x22', '\x27'] do
    if ← Reader.accept [quote, quote, quote] then
      let _ ← acceptNewline
      return some (String.ofList (← multilineChars quote fuel))
  return none

/-- One part of a key. -/
def simpleKey (fuel : Nat) : Reader String := do
  if let some key ← quotedLine? fuel then return key
  let chars ← Reader.takeWhile isBareKeyChar
  if chars.isEmpty then failure
  return String.ofList chars

/-- A key: the path to a table and the name in it. -/
def dottedKey : Nat → Reader (List String × String)
  | 0 => failure
  | fuel + 1 => do
    let part ← simpleKey fuel
    skipSpaces
    if ← Reader.accept ['.'] then
      skipSpaces
      let (path, key) ← dottedKey fuel
      return (part :: path, key)
    return ([], part)

/-- A boolean, a number or a time. A space may stand between a date and a time. -/
def scalar : Reader Value := do
  let run ← Reader.takeWhile isScalarChar
  let after ← Reader.remaining
  let spaced := match after with
    | ' ' :: digit :: _ => isDate run && digit.isDigit
    | _ => false
  if spaced then
    let _ ← Reader.next
    let time ← Reader.takeWhile isScalarChar
    let some value := scalar? (run ++ ' ' :: time) | failure
    return value
  let some value := scalar? run | failure
  return value

/-- How many arrays and inline tables may stand within each other. -/
def nestingLimit : Nat := 80

mutual

/-- A value, in which arrays and inline tables may still be nested to the given depth. -/
def value (depth : Nat) : Nat → Reader Value
  | 0 => failure
  | fuel + 1 => do
    if let some text ← quotedLines? fuel then return .string text
    if let some text ← quotedLine? fuel then return .string text
    match depth with
    | 0 => scalar
    | inner + 1 =>
      if ← Reader.accept ['['] then return .array (← items inner fuel)
      if ← Reader.accept ['\x7b'] then
        return .table (entriesToValues (← inlineEntries inner fuel []))
      scalar

/-- The items of an array, up to its closing bracket. -/
def items (depth : Nat) : Nat → Reader (List Value)
  | 0 => failure
  | fuel + 1 => do
    skipLines fuel
    if ← Reader.accept [']'] then return []
    let item ← value depth fuel
    skipLines fuel
    if ← Reader.accept [','] then return item :: (← items depth fuel)
    Reader.expect [']']
    return [item]

/-- The entries of an inline table, up to its closing brace. Lines may end on both sides of an
equals sign. -/
def inlineEntries (depth : Nat) : Nat → Entries → Reader Entries
  | 0, _ => failure
  | fuel + 1, entries => do
    skipLines fuel
    if ← Reader.accept ['\x7d'] then return entries
    let (path, key) ← dottedKey fuel
    skipLines fuel
    Reader.expect ['=']
    skipLines fuel
    let some extended := entries.assign key (← value depth fuel) path | failure
    skipLines fuel
    if ← Reader.accept [','] then return ← inlineEntries depth fuel extended
    Reader.expect ['\x7d']
    return extended

end

/-- The path of the open table, with the entries of the root table. -/
structure Progress where
  current : List String := []
  root : Entries := []

/-- A header of a table, or of one of several tables. -/
def header (fuel : Nat) (progress : Progress) : Reader Progress := do
  let several ← Reader.accept ['[']
  skipSpaces
  let (path, key) ← dottedKey fuel
  Reader.expect (if several then [']', ']'] else [']'])
  let opened :=
    if several then progress.root.openTables path key else progress.root.openTable path key
  let some root := opened | failure
  return ⟨path ++ [key], root⟩

/-- An entry of the open table. -/
def entry (fuel : Nat) (progress : Progress) : Reader Progress := do
  let (path, key) ← dottedKey fuel
  Reader.expect ['=']
  skipSpaces
  let value ← value nestingLimit fuel
  let some root := progress.root.descend (·.assign key value path) progress.current | failure
  return { progress with root }

/-- The rest of a line after an entry or a header. -/
def endLine : Reader Unit := do
  skipSpaces
  skipComment
  if !(← acceptNewline) && (← Reader.peek).isSome then failure

/-- The lines of a document. -/
def lines : Nat → Progress → Reader Entries
  | 0, _ => failure
  | fuel + 1, progress => do
    skipLines fuel
    if (← Reader.peek).isNone then return progress.root
    let next ← if ← Reader.accept ['['] then header fuel progress else entry fuel progress
    endLine
    lines fuel next

/-- The entries of a document's root table. A byte order mark may stand in front. -/
def parse? (text : String) : Option (List (String × Value)) :=
  let fuel := text.length + 2
  let document : Reader Entries := do
    let _ ← Reader.accept ['\uFEFF']
    lines fuel {}
  (document.run? text).map entriesToValues

end ContentQuery.Toml
