import ContentQuery.Text.Reader

/-!
# Reading JSON

A reader for the JSON grammar. Nothing but blanks may surround the value of a document.

Values are kept as the decoders need them: members stay in order with duplicates, and a natural
number is told from other numbers. A text can be written with escapes for surrogates that have no
partner; it is valid JSON but stands for no text.
-/

namespace ContentQuery.Json

open ContentQuery.Text

/-- A JSON value. -/
inductive Value where
  | null
  | bool (value : Bool)
  /-- A number written with digits alone. -/
  | natural (value : Nat)
  /-- Any other number. -/
  | number
  | string (text : Option String)
  | array (items : List Value)
  | object (members : List (Option String × Value))
deriving Repr

/-- The characters that JSON allows between its tokens. -/
def isBlank (char : Char) : Bool :=
  char == ' ' || char == '\n' || char == '\t' || char == '\r'

/-- Passes over blanks. -/
def skipBlanks : Reader Unit := do
  let _ ← Reader.takeWhile isBlank

/-- The code that the rest of an escape stands for. -/
def escapedCode : Reader Nat := do
  match ← Reader.next with
  | '\x22' => return 0x22
  | '\\' => return 0x5C
  | '/' => return 0x2F
  | 'b' => return 0x08
  | 'f' => return 0x0C
  | 'n' => return 0x0A
  | 'r' => return 0x0D
  | 't' => return 0x09
  | 'u' => Reader.hex 4 0
  | _ => failure

/-- The codes of a text up to its closing quote. -/
def stringCodes : Nat → Reader (List Nat)
  | 0 => failure
  | fuel + 1 => do
    match ← Reader.next with
    | '\x22' => return []
    | '\\' =>
      let code ← escapedCode
      return code :: (← stringCodes fuel)
    | char =>
      if char.toNat < 0x20 then failure
      return char.toNat :: (← stringCodes fuel)

/-- The characters for a list of codes, in which two surrogates in a row stand for one character. -/
def charsOfCodes? : List Nat → Option (List Char)
  | [] => some []
  | high :: low :: rest =>
    if 0xD800 ≤ high ∧ high < 0xDC00 ∧ 0xDC00 ≤ low ∧ low < 0xE000 then
      (charsOfCodes? rest).map
        (Char.ofNat (0x10000 + (high - 0xD800) * 0x400 + (low - 0xDC00)) :: ·)
    else if high.isValidChar then (charsOfCodes? (low :: rest)).map (Char.ofNat high :: ·)
    else none
  | [code] => if code.isValidChar then some [Char.ofNat code] else none

/-- The text after an opening quote. -/
def stringText (fuel : Nat) : Reader (Option String) := do
  return (charsOfCodes? (← stringCodes fuel)).map String.ofList

/-- A run of at least one decimal digit. -/
def digits : Reader (List Char) := do
  let run ← Reader.takeWhile Char.isDigit
  if run.isEmpty then failure
  return run

/-- The value of decimal digits. -/
def digitsValue (digits : List Char) : Nat :=
  digits.foldl (fun value digit => 10 * value + (digit.toNat - 0x30)) 0

/-- A number. Only zero itself may start with a zero. -/
def number : Reader Value := do
  let negative ← Reader.accept ['-']
  let whole ← digits
  if whole.head? == some '0' && 1 < whole.length then failure
  let fraction ← Reader.accept ['.']
  if fraction then
    let _ ← digits
  let mark ← Reader.peek
  let exponent := mark == some 'e' || mark == some 'E'
  if exponent then
    let _ ← Reader.next
    let sign ← Reader.peek
    if sign == some '+' || sign == some '-' then
      let _ ← Reader.next
    let _ ← digits
  return if negative || fraction || exponent then .number else .natural (digitsValue whole)

mutual

/-- A value without blanks in front. -/
def value : Nat → Reader Value
  | 0 => failure
  | fuel + 1 => do
    match ← Reader.peek with
    | some 'n' => Reader.expect ['n', 'u', 'l', 'l']; return .null
    | some 't' => Reader.expect ['t', 'r', 'u', 'e']; return .bool true
    | some 'f' => Reader.expect ['f', 'a', 'l', 's', 'e']; return .bool false
    | some '\x22' => let _ ← Reader.next; return .string (← stringText fuel)
    | some '[' =>
      let _ ← Reader.next
      skipBlanks
      if ← Reader.accept [']'] then return .array []
      return .array (← items fuel)
    | some '\x7b' =>
      let _ ← Reader.next
      skipBlanks
      if ← Reader.accept ['\x7d'] then return .object []
      return .object (← members fuel)
    | _ => number

/-- The items of an array that is not empty, up to its closing bracket. -/
def items : Nat → Reader (List Value)
  | 0 => failure
  | fuel + 1 => do
    skipBlanks
    let item ← value fuel
    skipBlanks
    if ← Reader.accept [','] then return item :: (← items fuel)
    Reader.expect [']']
    return [item]

/-- The members of an object that is not empty, up to its closing brace. -/
def members : Nat → Reader (List (Option String × Value))
  | 0 => failure
  | fuel + 1 => do
    skipBlanks
    Reader.expect ['\x22']
    let key ← stringText fuel
    skipBlanks
    Reader.expect [':']
    skipBlanks
    let member ← value fuel
    skipBlanks
    if ← Reader.accept [','] then return (key, member) :: (← members fuel)
    Reader.expect ['\x7d']
    return [(key, member)]

end

/-- A document: one value and blanks around it. -/
def document (fuel : Nat) : Reader Value := do
  skipBlanks
  let result ← value fuel
  skipBlanks
  return result

/-- The value of a JSON document. -/
def parse? (text : String) : Option Value :=
  (document (text.length + 1)).run? text

end ContentQuery.Json
