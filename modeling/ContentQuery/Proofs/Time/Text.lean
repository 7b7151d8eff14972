import ContentQuery.Literal.Text
import ContentQuery.Proofs.Text.Order
import ContentQuery.Proofs.Time.Calendar

/-!
# Order of timestamp texts

The engine compares timestamps by their texts. The text of a timestamp is its UTC date and time of
day, the largest unit first and each unit with its own fixed number of digits, up to the
ten-thousandth of a second. So texts compare like instants do, counted in these ticks.

The main statement says this of all instants whose UTC year has four digits, before 1970 as well as
after.
-/

namespace ContentQuery

open Text (OrderedBy)

namespace Timestamp

/-! ### Padded numbers -/

theorem padded_one {number : Nat} (digit : number < 10) :
    padded 1 number = String.ofList [Nat.digitChar number] := by
  rw [padded, Nat.toDigits_of_lt_base digit]
  rfl

/-- The last digit stands behind the other digits, which are padded to one character less. -/
theorem padded_succ {width : Nat} (positive : 0 < width) (number : Nat) :
    padded (width + 1) number = padded width (number / 10) ++ "" ++ padded 1 (number % 10) := by
  have lastDigit : number % 10 < 10 := Nat.mod_lt _ (by decide)
  rw [padded_one lastDigit, padded, padded, String.append_empty, ← String.ofList_append,
    Nat.toDigits_eq_if (by decide)]
  congr 1
  split
  next small =>
    have noTens : number / 10 = 0 := Nat.div_eq_of_lt small
    have zeros : List.replicate width '0' = List.replicate (width - 1) '0' ++ ['0'] := by
      rw [← List.replicate_succ', Nat.sub_add_cancel positive]
    simp [List.leftpad, noTens, Nat.mod_eq_of_lt small, zeros]
  next => simp [List.leftpad]

theorem digitChar_lt_iff {left right : Nat} (leftDigit : left < 10) (rightDigit : right < 10) :
    left.digitChar < right.digitChar ↔ left < right := by
  change left.digitChar.toNat < right.digitChar.toNat ↔ left < right
  rw [Nat.toNat_digitChar_of_lt_ten leftDigit, Nat.toNat_digitChar_of_lt_ten rightDigit]
  omega

theorem orderedBy_digit : OrderedBy (· < 10) (padded 1) (fun number => (number : Int)) where
  length_eq leftMem rightMem := by
    simp [padded_one leftMem, padded_one rightMem]
  lt_iff leftMem rightMem := by
    rw [padded_one leftMem, padded_one rightMem, String.lt_iff_toList_lt]
    simp [List.cons_lt_cons_iff, digitChar_lt_iff leftMem rightMem]

/-- Numbers that fit a width compare like their padded texts. -/
theorem orderedBy_padded {width : Nat} (positive : 0 < width) :
    OrderedBy (· < 10 ^ width) (padded width) (fun number => (number : Int)) := by
  induction width, positive using Nat.le_induction with
  | base => exact orderedBy_digit
  | succ width positive ih =>
      have tensFit : ∀ number, number < 10 ^ (width + 1) → number / 10 < 10 ^ width := by
        intro number fits
        rw [Nat.pow_succ] at fits
        omega
      have digitFits : ∀ number, number < 10 ^ (width + 1) → number % 10 < 10 :=
        fun number _ => Nat.mod_lt number (by decide)
      have tens := ih.comp (· / 10) tensFit
      have lastDigit := orderedBy_digit.comp (· % 10) digitFits
      have bounds : ∀ number, number < 10 ^ (width + 1) →
          0 ≤ ((number % 10 : Nat) : Int) ∧ ((number % 10 : Nat) : Int) < 0 + 10 := by
        omega
      refine (tens.append "" lastDigit bounds).congr ?_ ?_
      · exact fun number _ => padded_succ positive number
      · omega

/-! ### Units of a timestamp -/

variable {timestamp : Timestamp}

/-- Days from 1970-01-01 to the UTC date. -/
def utcDay (timestamp : Timestamp) : Int :=
  timestamp.instant / nanosPerDay

def utcDate (timestamp : Timestamp) : CivilDate :=
  .ofDays timestamp.utcDay

def nanosOfDay (timestamp : Timestamp) : Nat :=
  (timestamp.instant % nanosPerDay).toNat

def secondOfDay (timestamp : Timestamp) : Nat :=
  timestamp.nanosOfDay / nanosPerSecond

def fraction (timestamp : Timestamp) : Nat :=
  timestamp.nanosOfDay % nanosPerSecond / 100000

/-- The instant in units of 100 microseconds, rounded down. -/
def tick (timestamp : Timestamp) : Int :=
  timestamp.instant / 100000

/-- The year of the UTC date needs no sign and no fifth digit. -/
def HasPlainYear (timestamp : Timestamp) : Prop :=
  0 ≤ timestamp.utcDate.year ∧ timestamp.utcDate.year ≤ 9999

instance (timestamp : Timestamp) : Decidable timestamp.HasPlainYear :=
  inferInstanceAs (Decidable (_ ∧ _))

theorem secondOfDay_lt (timestamp : Timestamp) : timestamp.secondOfDay < 86400 := by
  rw [secondOfDay, nanosOfDay, nanosPerDay, nanosPerSecond]
  omega

theorem fraction_lt (timestamp : Timestamp) : timestamp.fraction < 10000 := by
  rw [fraction, nanosPerSecond]
  omega

theorem tick_eq (timestamp : Timestamp) :
    timestamp.tick =
      864000000 * timestamp.utcDay +
        (10000 * timestamp.secondOfDay + timestamp.fraction : Nat) := by
  rw [tick, utcDay, fraction, secondOfDay, nanosOfDay, nanosPerDay, nanosPerSecond]
  omega

theorem orderedBy_year :
    OrderedBy HasPlainYear (fun timestamp => yearText timestamp.utcDate.year)
      (fun timestamp => timestamp.utcDate.year) := by
  have fits : ∀ timestamp : Timestamp, timestamp.HasPlainYear →
      timestamp.utcDate.year.natAbs < 10 ^ 4 := by
    rintro timestamp ⟨notNegative, short⟩
    omega
  refine ((orderedBy_padded (by decide)).comp (fun timestamp => timestamp.utcDate.year.natAbs)
    fits).congr ?_ ?_
  · rintro timestamp ⟨notNegative, _⟩
    rw [yearText, if_neg (Int.not_lt.mpr notNegative)]
  · rintro left right ⟨leftNotNegative, _⟩ ⟨rightNotNegative, _⟩
    omega

/-- One more unit with a fixed number of digits behind the units so far. -/
theorem append_unit {write : Timestamp → String} {rank : Timestamp → Int}
    (units : OrderedBy HasPlainYear write rank) (between : String) (width : Nat)
    {low bound : Nat} (positive : 0 < width) (fits : low + bound ≤ 10 ^ width)
    (unit : Timestamp → Nat)
    (inBounds : ∀ timestamp, low ≤ unit timestamp ∧ unit timestamp < low + bound) :
    OrderedBy HasPlainYear
      (fun timestamp => write timestamp ++ between ++ padded width (unit timestamp))
      (fun timestamp => bound * rank timestamp + unit timestamp) := by
  have unitFits : ∀ timestamp : Timestamp, timestamp.HasPlainYear → unit timestamp < 10 ^ width :=
    fun timestamp _ => (inBounds timestamp).2.trans_le fits
  have unitMem : ∀ timestamp : Timestamp, timestamp.HasPlainYear →
      (low : Int) ≤ unit timestamp ∧ (unit timestamp : Int) < low + bound := by
    intro timestamp _
    have inRange := inBounds timestamp
    omega
  exact units.append between ((orderedBy_padded positive).comp unit unitFits) unitMem

theorem month_mem (timestamp : Timestamp) :
    1 ≤ timestamp.utcDate.month ∧ timestamp.utcDate.month ≤ 12 :=
  CivilDate.month_ofDays_mem timestamp.utcDay

theorem day_mem (timestamp : Timestamp) :
    1 ≤ timestamp.utcDate.day ∧ timestamp.utcDate.day ≤ 31 :=
  CivilDate.day_ofDays_mem timestamp.utcDay

theorem orderedBy_date :
    OrderedBy HasPlainYear
      (fun timestamp => yearText timestamp.utcDate.year ++ "-" ++
        padded 2 timestamp.utcDate.month.toNat ++ "-" ++ padded 2 timestamp.utcDate.day.toNat)
      (fun timestamp => timestamp.utcDate.rank) := by
  have months (timestamp : Timestamp) :
      1 ≤ timestamp.utcDate.month.toNat ∧ timestamp.utcDate.month.toNat < 1 + 12 := by
    have inYear := month_mem timestamp
    omega
  have days (timestamp : Timestamp) :
      1 ≤ timestamp.utcDate.day.toNat ∧ timestamp.utcDate.day.toNat < 1 + 31 := by
    have inMonth := day_mem timestamp
    omega
  have toMonth := append_unit orderedBy_year "-" 2 (by decide) (by decide) _ months
  have toDay := append_unit toMonth "-" 2 (by decide) (by decide) _ days
  refine toDay.congr (fun _ _ => rfl) ?_
  intro left right _ _
  have leftYear := month_mem left
  have leftMonth := day_mem left
  have rightYear := month_mem right
  have rightMonth := day_mem right
  rw [CivilDate.rank, CivilDate.rank]
  omega

/-- Plain years lie well inside the range of dates. -/
theorem HasPlainYear.isSome_toUtc? (plain : timestamp.HasPlainYear) :
    timestamp.toUtc?.isSome := by
  have first : (CivilDate.mk (-9999) 1 1).toDays = -4371587 := by decide
  have last : (CivilDate.mk 10000 1 1).toDays = 2932897 := by decide
  have firstRank : (CivilDate.ofDays (-4371587)).rank < 0 := by decide
  have lastRank : (CivilDate.ofDays 2932897).rank = 3720032 := by decide
  have inYear := month_mem timestamp
  have inMonth := day_mem timestamp
  have notBefore : -4371587 ≤ timestamp.utcDay := by
    by_contra before
    have earlier := CivilDate.rank_ofDays_lt (Int.not_le.mp before)
    rw [← utcDate, CivilDate.rank] at earlier
    have notNegative := plain.1
    omega
  have notAfter : timestamp.utcDay < 2932897 := by
    by_contra after
    have later : (CivilDate.ofDays 2932897).rank ≤ timestamp.utcDate.rank := by
      rcases Int.lt_or_eq_of_le (Int.not_lt.mp after) with later | same
      · exact Int.le_of_lt (CivilDate.rank_ofDays_lt later)
      · rw [same, utcDate]
    rw [lastRank, CivilDate.rank] at later
    have fourDigits := plain.2
    omega
  have inRange : timestamp.toMoment.inUtc.IsRepresentable := by
    simp only [Moment.IsRepresentable, Moment.localNanos, Moment.inUtc, first, last]
    rw [utcDay] at notBefore notAfter
    simp only [nanosPerDay, nanosPerSecond] at notBefore notAfter ⊢
    omega
  simp [toUtc?, Moment.toTimestamp?, inRange]

/-- The number of the written units is a tick number with the rank of the date in the place of the
day. -/
theorem units_lt_units_iff (left right : Timestamp) :
    864000000 * left.utcDate.rank + (10000 * left.secondOfDay + left.fraction : Nat) <
        864000000 * right.utcDate.rank + (10000 * right.secondOfDay + right.fraction : Nat) ↔
      left.tick < right.tick := by
  have leftInDay := left.secondOfDay_lt
  have leftInSecond := left.fraction_lt
  have rightInDay := right.secondOfDay_lt
  have rightInSecond := right.fraction_lt
  rw [tick_eq, tick_eq]
  rcases Int.lt_trichotomy left.utcDay right.utcDay with earlier | sameDay | later
  · have earlierDate : left.utcDate.rank < right.utcDate.rank := CivilDate.rank_ofDays_lt earlier
    omega
  · have sameDate : left.utcDate = right.utcDate := congrArg CivilDate.ofDays sameDay
    rw [sameDate]
    omega
  · have laterDate : right.utcDate.rank < left.utcDate.rank := CivilDate.rank_ofDays_lt later
    omega

/-- Timestamps with plain years compare like their texts. -/
theorem orderedBy_text : OrderedBy HasPlainYear text tick := by
  have hours (timestamp : Timestamp) :
      0 ≤ timestamp.secondOfDay / 3600 ∧ timestamp.secondOfDay / 3600 < 0 + 24 := by
    have inDay := secondOfDay_lt timestamp
    omega
  have minutes (timestamp : Timestamp) :
      0 ≤ timestamp.secondOfDay / 60 % 60 ∧ timestamp.secondOfDay / 60 % 60 < 0 + 60 := by
    omega
  have seconds (timestamp : Timestamp) :
      0 ≤ timestamp.secondOfDay % 60 ∧ timestamp.secondOfDay % 60 < 0 + 60 := by
    omega
  have fractions (timestamp : Timestamp) :
      0 ≤ timestamp.fraction ∧ timestamp.fraction < 0 + 10000 := by
    have inSecond := fraction_lt timestamp
    omega
  have toHour := append_unit orderedBy_date " " 2 (by decide) (by decide) _ hours
  have toMinute := append_unit toHour ":" 2 (by decide) (by decide) _ minutes
  have toSecond := append_unit toMinute ":" 2 (by decide) (by decide) _ seconds
  have toFraction := append_unit toSecond "." 4 (by decide) (by decide) _ fractions
  refine toFraction.congr (fun _ _ => rfl) ?_
  intro left right _ _
  rw [← units_lt_units_iff]
  omega

end Timestamp

/-- The texts of two timestamps with plain years compare as literals of a query like their instants
do, counted in ticks, whatever their offsets are. In particular they are the same text exactly if
their instants lie in one tick. Such timestamps have a date in UTC and so can be printed. -/
theorem Literal.render_le_render_iff {left right : Timestamp} (leftPlain : left.HasPlainYear)
    (rightPlain : right.HasPlainYear) :
    (dateTime left).isPrintable = true ∧ (dateTime right).isPrintable = true ∧
      ((dateTime left).render ≤ (dateTime right).render ↔ left.tick ≤ right.tick) ∧
      ((dateTime left).render = (dateTime right).render ↔ left.tick = right.tick) := by
  have ordered := Timestamp.orderedBy_text.between "'" "'"
  exact ⟨leftPlain.isSome_toUtc?, rightPlain.isSome_toUtc?, ordered.le_iff leftPlain rightPlain,
    ordered.eq_iff leftPlain rightPlain⟩

/-- The last nanosecond of 1969 has an earlier text than the start of 1970, and all of the first
tick of 1970 has one text. -/
theorem Literal.render_le_render_iff_epoch :
    let before : Timestamp := ⟨⟨-1, 7200⟩, by decide⟩
    let start : Timestamp := .epoch
    let within : Timestamp := ⟨⟨99999, -3600⟩, by decide⟩
    before.HasPlainYear ∧ start.HasPlainYear ∧ within.HasPlainYear ∧
      (dateTime before).render = "'1969-12-31 23:59:59.9999'" ∧
        (dateTime start).render = "'1970-01-01 00:00:00.0000'" ∧
          (dateTime before).render ≤ (dateTime start).render ∧
            ¬(dateTime start).render ≤ (dateTime before).render ∧
              (dateTime start).render = (dateTime within).render := by
  intro before start within
  have beforePlain : before.HasPlainYear := by decide
  have startPlain : start.HasPlainYear := by decide
  have withinPlain : within.HasPlainYear := by decide
  refine ⟨beforePlain, startPlain, withinPlain, by decide, by decide, ?_, ?_, ?_⟩
  · exact (render_le_render_iff beforePlain startPlain).2.2.1.mpr (by decide)
  · intro notLater
    exact absurd ((render_le_render_iff startPlain beforePlain).2.2.1.mp notLater) (by decide)
  · exact (render_le_render_iff startPlain withinPlain).2.2.2.mpr (by decide)

end ContentQuery
