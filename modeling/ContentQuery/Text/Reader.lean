/-!
# Readers

A reader takes characters from the front of a text and gives a value, or fails. Readers of document
formats are built from the few below; the ones that repeat themselves take an amount of fuel that
the length of the text bounds, because every round takes a character.
-/

namespace ContentQuery.Text

/-- A computation that takes characters from the front of a text. -/
abbrev Reader := StateT (List Char) Option

namespace Reader

variable {Value : Type}

/-- The next character, left in place. -/
def peek : Reader (Option Char) := fun chars => some (chars.head?, chars)

/-- The characters that are left, left in place. -/
def remaining : Reader (List Char) := get

/-- The next character. -/
def next : Reader Char
  | [] => none
  | char :: rest => some (char, rest)

/-- Takes the wanted characters, which have to come next. -/
def expect (wanted : List Char) : Reader Unit := fun chars =>
  if wanted.isPrefixOf chars then some ((), chars.drop wanted.length) else none

/-- Takes the wanted characters if they come next, and tells whether they did. -/
def accept (wanted : List Char) : Reader Bool := fun chars =>
  if wanted.isPrefixOf chars then some (true, chars.drop wanted.length) else some (false, chars)

/-- The longest run of characters with a property. -/
def takeWhile (property : Char → Bool) : Reader (List Char) := fun chars =>
  some (chars.takeWhile property, chars.dropWhile property)

/-- The value of a hexadecimal digit. -/
def hexDigit? (char : Char) : Option Nat :=
  if '0' ≤ char ∧ char ≤ '9' then some (char.toNat - 0x30)
  else if 'a' ≤ char ∧ char ≤ 'f' then some (char.toNat - 0x61 + 10)
  else if 'A' ≤ char ∧ char ≤ 'F' then some (char.toNat - 0x41 + 10)
  else none

/-- The number written with the given count of hexadecimal digits. -/
def hex : Nat → Nat → Reader Nat
  | 0, value => pure value
  | count + 1, value => do
    let some digit := hexDigit? (← next) | failure
    hex count (16 * value + digit)

/-- The character with a code, which surrogates do not have. -/
def character (code : Nat) : Reader Char :=
  if code.isValidChar then pure (Char.ofNat code) else failure

/-- The value of a whole text. -/
def run? (reader : Reader Value) (text : String) : Option Value :=
  match StateT.run reader text.toList with
  | some (value, []) => some value
  | _ => none

end Reader

end ContentQuery.Text
