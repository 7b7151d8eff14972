/-!
# TOML dates and times

Dates and times are checked against the calendar and the clock. The seconds of a time may be left
out, and a second of 60 is a leap second.
-/

namespace ContentQuery.Toml

/-- The number written with two digits. -/
def twoDigits? : List Char → Option Nat
  | [tens, ones] =>
    if tens.isDigit && ones.isDigit then
      some (10 * (tens.toNat - 0x30) + (ones.toNat - 0x30))
    else none
  | _ => none

/-- The number of days in a month. -/
def daysInMonth (year month : Nat) : Nat :=
  if month == 2 then
    if year % 4 == 0 && (year % 100 != 0 || year % 400 == 0) then 29 else 28
  else if month == 4 || month == 6 || month == 9 || month == 11 then 30
  else 31

/-- A date `yyyy-mm-dd`. -/
def isDate : List Char → Bool
  | [y₁, y₂, y₃, y₄, '-', m₁, m₂, '-', d₁, d₂] =>
    match twoDigits? [y₁, y₂], twoDigits? [y₃, y₄], twoDigits? [m₁, m₂], twoDigits? [d₁, d₂] with
    | some century, some year, some month, some day =>
      1 ≤ month && month ≤ 12 && 1 ≤ day && day ≤ daysInMonth (100 * century + year) month
    | _, _, _, _ => false
  | _ => false

/-- A time of day `hh:mm`, which seconds and a fraction of them may follow. -/
def isTime : List Char → Bool
  | h₁ :: h₂ :: ':' :: m₁ :: m₂ :: rest =>
    match twoDigits? [h₁, h₂], twoDigits? [m₁, m₂] with
    | some hour, some minute =>
      hour ≤ 23 && minute ≤ 59 &&
        match rest with
        | [] => true
        | ':' :: s₁ :: s₂ :: fraction =>
          match twoDigits? [s₁, s₂], fraction with
          | some second, [] => second ≤ 60
          | some second, '.' :: digits =>
            second ≤ 60 && !digits.isEmpty && digits.all Char.isDigit
          | _, _ => false
        | _ => false
    | _, _ => false
  | _ => false

/-- An offset from UTC. -/
def isOffset : List Char → Bool
  | [mark] => mark == 'Z' || mark == 'z'
  | [sign, h₁, h₂, ':', m₁, m₂] =>
    (sign == '+' || sign == '-') && isTime [h₁, h₂, ':', m₁, m₂]
  | _ => false

/-- A time of day, with an offset or without one. -/
def isOffsetTime (chars : List Char) : Bool :=
  let (time, offset) :=
    chars.span fun char => char != 'Z' && char != 'z' && char != '+' && char != '-'
  isTime time && (offset.isEmpty || isOffset offset)

/-- A date, a time of day, or both with a mark between them. -/
def isDateTime (chars : List Char) : Bool :=
  if isDate (chars.take 10) then
    match chars.drop 10 with
    | [] => true
    | mark :: time => (mark == 'T' || mark == 't' || mark == ' ') && isOffsetTime time
  else isTime chars

end ContentQuery.Toml
