import ContentQuery.Toml.DateTime

/-!
# TOML values and scalars without quotes

Values are kept as the decoders need them, with numbers and times as they are written.

Booleans, numbers and times are runs of characters, and the run as a whole decides which of them it
is.

No setting is a number, so nothing reads the value of one. A number is recognized by its beginning,
by the form of its fraction and exponent, and by the places of its underscores: `1_000` is a number,
and so are `1_2zz`, which goes on after its digits, and `0x`, which has none.
-/

namespace ContentQuery.Toml

/-- A TOML value. The keys of a table are distinct. -/
inductive Value where
  | string (text : String)
  | number (written : String)
  | boolean (value : Bool)
  | dateTime (written : String)
  | array (items : List Value)
  | table (entries : List (String × Value))
deriving Repr

/-- A digit of base two, eight, ten or sixteen. -/
def isDigitOf (base : Nat) (char : Char) : Bool :=
  if base ≤ 10 then '0' ≤ char && char.toNat < 0x30 + base
  else char.isDigit || ('a' ≤ char && char ≤ 'f') || ('A' ≤ char && char ≤ 'F')

/-- Every underscore stands between two digits. The flag tells whether one may come first. -/
def separatesDigits (base : Nat) : Bool → List Char → Bool
  | _, [] => true
  | allowed, '_' :: rest =>
    allowed && rest.head?.any (isDigitOf base) && separatesDigits base false rest
  | _, char :: rest => separatesDigits base (isDigitOf base char) rest

/-- Decimal digits and underscores. -/
def isDigitOrUnderscore (char : Char) : Bool :=
  char.isDigit || char == '_'

/-- An integer in another base than ten, without its mark. -/
def isBasedInteger (base : Nat) (digits : List Char) : Bool :=
  digits.all (fun char => isDigitOf base char || char == '_') && separatesDigits base false digits

/-- Passes over a run of digits that underscores may separate. -/
def afterDigits? (chars : List Char) : Option (List Char) :=
  let (run, rest) := chars.span isDigitOrUnderscore
  if run.any Char.isDigit then some rest else none

/-- Passes over a fraction if one comes next. -/
def afterFraction? : List Char → Option (List Char)
  | '.' :: digits => afterDigits? digits
  | chars => some chars

/-- Passes over an exponent if one comes next. -/
def afterExponent? : List Char → Option (List Char)
  | mark :: chars =>
    if mark == 'e' || mark == 'E' then
      match chars with
      | '+' :: digits | '-' :: digits => afterDigits? digits
      | digits => afterDigits? digits
    else some (mark :: chars)
  | [] => some []

/-- A zero in front of further digits. -/
def hasLeadingZero (digits : List Char) : Bool :=
  digits.head? == some '0' && 1 < digits.countP Char.isDigit

/-- A number with a fraction or an exponent, without its sign. -/
def isFloat (unsigned : List Char) : Bool :=
  !hasLeadingZero (unsigned.takeWhile isDigitOrUnderscore) &&
    (afterDigits? unsigned >>= afterFraction? >>= afterExponent?) == some []

/-- A decimal integer without its sign. Only after an underscore may anything but a digit follow. -/
def isInteger (unsigned : List Char) : Bool :=
  match unsigned with
  | ['0'] => true
  | '0' :: _ | [] => false
  | _ => (unsigned.dropWhile Char.isDigit).head?.all (· == '_')

/-- A decimal number, or one of the words for infinity and for no number. The flag tells whether a
sign stands in front; an underscore may come right after it. -/
def isDecimal (signed : Bool) (unsigned : List Char) : Bool :=
  if unsigned == ['i', 'n', 'f'] || unsigned == ['n', 'a', 'n'] then true
  else if unsigned.any fun char => char == '.' || char == 'e' || char == 'E' then
    isFloat unsigned && separatesDigits 10 signed unsigned
  else isInteger unsigned && separatesDigits 16 signed unsigned

/-- A number. A mark in front gives the base of an integer, which then takes no sign. -/
def isNumber : List Char → Bool
  | '0' :: 'x' :: digits => isBasedInteger 16 digits
  | '0' :: 'o' :: digits => isBasedInteger 8 digits
  | '0' :: 'b' :: digits => isBasedInteger 2 digits
  | '+' :: unsigned | '-' :: unsigned => isDecimal true unsigned
  | unsigned => isDecimal false unsigned

/-- The value of a run of characters. -/
def scalar? (chars : List Char) : Option Value :=
  if chars == ['t', 'r', 'u', 'e'] then some (.boolean true)
  else if chars == ['f', 'a', 'l', 's', 'e'] then some (.boolean false)
  else if isDateTime chars then some (.dateTime (String.ofList chars))
  else if isNumber chars then some (.number (String.ofList chars))
  else none

end ContentQuery.Toml
