import ContentQuery.Number.Binary
import ContentQuery.Time.Calendar

/-!
# Timestamps

A timestamp is an instant, counted in nanoseconds from 1970-01-01 00:00 UTC, together with the UTC
offset it was given in. Its local date has to lie in the years -9999 to 9999. An instant near either
end of that range may have such a date in one offset and none in another, UTC included. Comparison
goes by the instant, and so does the text, which is that of the date in UTC.
-/

namespace ContentQuery

/-- Units of a shift in time. -/
inductive TimeUnit where
  | day
  | hour
  | minute
  | second
deriving DecidableEq, Repr

/-- The length of a unit in seconds. -/
def TimeUnit.seconds : TimeUnit → Nat
  | .day => 86400
  | .hour => 3600
  | .minute => 60
  | .second => 1

/-- Nanoseconds in a second. -/
def nanosPerSecond : Nat := 1000000000

/-- Nanoseconds in a day. -/
def nanosPerDay : Nat := 86400 * nanosPerSecond

/-- An instant with a UTC offset. -/
structure Moment where
  /-- Nanoseconds since 1970-01-01 00:00 UTC. -/
  instant : Int
  /-- Seconds by which local time is ahead of UTC. -/
  offset : Int
deriving DecidableEq, Repr

namespace Moment

/-- Nanoseconds from 1970-01-01 00:00 to the moment on a local clock. -/
def localNanos (moment : Moment) : Int :=
  moment.instant + moment.offset * nanosPerSecond

/-- The local date lies in the years -9999 to 9999. -/
def IsRepresentable (moment : Moment) : Prop :=
  (CivilDate.mk (-9999) 1 1).toDays * nanosPerDay ≤ moment.localNanos ∧
    moment.localNanos < (CivilDate.mk 10000 1 1).toDays * nanosPerDay

instance (moment : Moment) : Decidable moment.IsRepresentable :=
  inferInstanceAs (Decidable (_ ∧ _))

/-- The same instant in UTC. -/
def inUtc (moment : Moment) : Moment :=
  { moment with offset := 0 }

/-- The moment `nanos` nanoseconds later. -/
def later (moment : Moment) (nanos : Int) : Moment :=
  { moment with instant := moment.instant + nanos }

/-- Local midnight of the day that holds the moment. -/
def startOfDay (moment : Moment) : Moment :=
  { moment with instant := moment.instant - moment.localNanos % nanosPerDay }

theorem IsRepresentable.startOfDay {moment : Moment} (representable : moment.IsRepresentable) :
    moment.startOfDay.IsRepresentable := by
  obtain ⟨lower, upper⟩ := representable
  have first : (CivilDate.mk (-9999) 1 1).toDays = -4371587 := by decide
  have last : (CivilDate.mk 10000 1 1).toDays = 2932897 := by decide
  have day : (nanosPerDay : Int) = 86400000000000 := by decide
  rw [first, day] at lower
  rw [last, day] at upper
  simp only [IsRepresentable, localNanos, Moment.startOfDay, first, last, day] at lower upper ⊢
  omega

/-- The moment `seconds` seconds and `nanos` nanoseconds after 1970-01-01 00:00 UTC. -/
def ofUnix (seconds : Int) (nanos : Nat) (offset : Int) : Moment :=
  ⟨seconds * nanosPerSecond + nanos, offset⟩

end Moment

/-- A moment with a representable date. -/
structure Timestamp extends Moment where
  representable : toMoment.IsRepresentable
deriving DecidableEq, Repr

/-- A moment as a timestamp, if it has a representable date. -/
def Moment.toTimestamp? (moment : Moment) : Option Timestamp :=
  if representable : moment.IsRepresentable then some ⟨moment, representable⟩ else none

namespace Timestamp

/-- 1970-01-01 00:00 UTC. -/
def epoch : Timestamp := ⟨⟨0, 0⟩, by decide⟩

/-- The same instant in UTC, if its date can be represented there. -/
def toUtc? (timestamp : Timestamp) : Option Timestamp :=
  timestamp.toMoment.inUtc.toTimestamp?

/-- Local midnight of the day that holds the timestamp. -/
def startOfDay (timestamp : Timestamp) : Timestamp :=
  ⟨timestamp.toMoment.startOfDay, timestamp.representable.startOfDay⟩

/-- The timestamp `nanos` nanoseconds later, if it has a representable date. -/
def add? (timestamp : Timestamp) (nanos : Int) : Option Timestamp :=
  (timestamp.toMoment.later nanos).toTimestamp?

/-- The order of instants. -/
def order (left right : Timestamp) : Ordering :=
  compare left.instant right.instant

/-- Decimal digits of a number, filled with zeros on the left up to a width. -/
def padded (width number : Nat) : String :=
  String.ofList (List.leftpad width '0' (Nat.toDigits 10 number))

/-- A year of at least four characters, a minus sign being one of them. -/
def yearText (year : Int) : String :=
  if year < 0 then "-" ++ padded 3 year.natAbs else padded 4 year.natAbs

/-- The text `yyyy-MM-dd HH:mm:ss.ffff` of the instant in UTC; the fraction is cut, not rounded. -/
def text (timestamp : Timestamp) : String :=
  let date := CivilDate.ofDays (timestamp.instant / nanosPerDay)
  let nanosOfDay := (timestamp.instant % nanosPerDay).toNat
  let second := nanosOfDay / nanosPerSecond
  yearText date.year ++ "-" ++ padded 2 date.month.toNat ++ "-" ++ padded 2 date.day.toNat ++ " " ++
    padded 2 (second / 3600) ++ ":" ++ padded 2 (second / 60 % 60) ++ ":" ++
    padded 2 (second % 60) ++ "." ++ padded 4 (nanosOfDay % nanosPerSecond / 100000)

end Timestamp

namespace TimeUnit

/-- The length of `amount` units in nanoseconds. A whole amount has to fit 32 bits. -/
def wholeNanos? (unit : TimeUnit) (amount : Int) : Option Int :=
  if Int32.minValue.toInt ≤ amount ∧ amount ≤ Int32.maxValue.toInt then
    some (amount * (unit.seconds * nanosPerSecond : Nat))
  else none

/-- The length of `amount` units, rounded to the nearest nanosecond, a half to the even neighbour.
The length in seconds is a float and has to fit 64 bits. -/
def fractionalNanos? (unit : TimeUnit) (amount : Float) : Option Int :=
  let seconds := Float.ofNat unit.seconds * amount
  if -9223372036854775808.0 ≤ seconds && seconds < 9223372036854775808.0 then
    match FloatClass.ofFloat seconds with
    | .finite number =>
      let magnitude : Int := number.scaledMagnitude nanosPerSecond
      some (if number.negative then -magnitude else magnitude)
    | _ => none
  else none

end TimeUnit

end ContentQuery
