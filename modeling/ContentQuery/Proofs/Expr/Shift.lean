import ContentQuery.Expr.Constant
import ContentQuery.Proofs.Outcome
import Mathlib.Algebra.BigOperators.Group.List.Basic
import Mathlib.Algebra.Ring.Int.Defs
import Mathlib.Data.List.Induction

/-!
# Time shifts

A shift moves a timestamp by a number of units, and shifts can be put in a chain. A whole number of
units is exact to the nanosecond, so a chain moves its timestamp by the sum of its shifts, in
whatever order they stand.

A shift fails where it leaves the range of dates. A whole number of units also has to fit 32 bits,
which rules out no date for days and hours, but does for minutes and seconds.
-/

namespace ContentQuery

namespace TimeUnit

/-- The length of a unit in nanoseconds. -/
def nanos (unit : TimeUnit) : Int :=
  (unit.seconds * nanosPerSecond : Nat)

/-- The method that shifts by a unit. -/
def shiftMethod : TimeUnit → Method
  | day => .addDays
  | hour => .addHours
  | minute => .addMinutes
  | second => .addSeconds

end TimeUnit

/-- The value fits 32 bits. -/
def IsInt32 (value : Int) : Prop :=
  Int32.minValue.toInt ≤ value ∧ value ≤ Int32.maxValue.toInt

instance (value : Int) : Decidable (IsInt32 value) :=
  inferInstanceAs (Decidable (_ ∧ _))

theorem Moment.later_later (moment : Moment) (nanos further : Int) :
    (moment.later nanos).later further = moment.later (nanos + further) := by
  rw [later, later, later, Int.add_assoc]

theorem Moment.later_zero (moment : Moment) : moment.later 0 = moment := by
  rw [later, Int.add_zero]

theorem Timestamp.eq_of_toMoment_eq {first second : Timestamp}
    (sameMoment : first.toMoment = second.toMoment) : first = second := by
  cases first
  cases second
  cases sameMoment
  rfl

theorem Timestamp.add?_eq_dite (timestamp : Timestamp) (nanos : Int) :
    timestamp.add? nanos =
      if inRange : (timestamp.later nanos).IsRepresentable then
        some ⟨timestamp.later nanos, inRange⟩
      else none :=
  rfl

/-! ### Single shifts -/

namespace Literal

/-- A timestamp is moved by the length of the shift, unless this leads out of the range of dates. -/
theorem shift_dateTime (unit : TimeUnit) (timestamp : Timestamp) (amount : Literal) :
    shift unit (dateTime timestamp) amount =
      shiftLength unit amount >>= fun nanos =>
        if inRange : (timestamp.later nanos).IsRepresentable then
          .ok (dateTime ⟨timestamp.later nanos, inRange⟩)
        else refuse .overflow := by
  rw [shift]
  congr 1
  funext nanos
  rw [Timestamp.add?_eq_dite]
  by_cases inRange : (timestamp.later nanos).IsRepresentable
  · rw [dif_pos inRange, dif_pos inRange]
  · rw [dif_neg inRange, dif_neg inRange]

theorem shiftLength_int (unit : TimeUnit) (amount : Int64) :
    shiftLength unit (int amount) =
      if IsInt32 amount.toInt then .ok (amount.toInt * unit.nanos) else refuse .overflow := by
  rw [shiftLength]
  by_cases fits : IsInt32 amount.toInt
  · have whole : unit.wholeNanos? amount.toInt = some (amount.toInt * unit.nanos) := if_pos fits
    rw [whole, if_pos fits]
  · have whole : unit.wholeNanos? amount.toInt = none := if_neg fits
    rw [whole, if_neg fits]

/-- A whole number of units moves a timestamp exactly, or it is an overflow. -/
theorem shift_int (unit : TimeUnit) (timestamp : Timestamp) (amount : Int64) :
    let moved := timestamp.later (amount.toInt * unit.nanos)
    shift unit (dateTime timestamp) (int amount) =
      if reaches : IsInt32 amount.toInt ∧ moved.IsRepresentable then
        .ok (dateTime ⟨moved, reaches.2⟩)
      else refuse .overflow := by
  intro moved
  rw [shift_dateTime, shiftLength_int]
  by_cases fits : IsInt32 amount.toInt
  · rw [if_pos fits]
    by_cases inRange : moved.IsRepresentable
    · rw [dif_pos ⟨fits, inRange⟩]
      exact dif_pos inRange
    · rw [dif_neg fun reaches => inRange reaches.2]
      exact dif_neg inRange
  · rw [if_neg fits, dif_neg fun reaches => fits reaches.1]
    rfl

end Literal

namespace Expr

/-- The target moved by an amount of units. -/
def shift (target : Expr) (unit : TimeUnit) (amount : Expr) : Expr :=
  .call unit.shiftMethod target [amount]

theorem evaluate_shift (time : Timestamp) (target : Expr) (unit : TimeUnit) (amount : Expr) :
    (target.shift unit amount).evaluate time =
      target.evaluate time >>= fun start => amount.evaluate time >>= start.shift unit := by
  cases unit <;> rfl

end Expr

/-- Dates span less than 2^31 hours. -/
theorem isInt32_of_isRepresentable_later {timestamp : Timestamp} {unit : TimeUnit} {amount : Int}
    (long : unit = .day ∨ unit = .hour)
    (moved : (timestamp.later (amount * unit.nanos)).IsRepresentable) : IsInt32 amount := by
  have first : (CivilDate.mk (-9999) 1 1).toDays = -4371587 := by decide
  have last : (CivilDate.mk 10000 1 1).toDays = 2932897 := by decide
  have least : Int32.minValue.toInt = -2147483648 := by decide
  have greatest : Int32.maxValue.toInt = 2147483647 := by decide
  have representable := timestamp.representable
  simp only [Moment.IsRepresentable, Moment.localNanos, Moment.later, first, last,
    nanosPerDay, nanosPerSecond] at representable moved
  rw [IsInt32, least, greatest]
  rcases long with rfl | rfl
  · simp only [TimeUnit.nanos, TimeUnit.seconds, nanosPerSecond] at moved
    omega
  · simp only [TimeUnit.nanos, TimeUnit.seconds, nanosPerSecond] at moved
    omega

/-- A shift by a whole number of units succeeds if the result is in the range of dates and, for
minutes and seconds, the number fits 32 bits. Then it gives that result to the nanosecond; otherwise
the constant is invalid. A number of days or hours that leads to a date always fits. -/
theorem Expr.exists_evaluate_shift_iff (timestamp time : Timestamp) (unit : TimeUnit)
    (amount : Int64) :
    let moved := timestamp.later (amount.toInt * unit.nanos)
    let outcome :=
      (shift (.constant (.dateTime timestamp)) unit (.constant (.int amount))).evaluate time
    ((∃ value, outcome = .ok value) ↔
        moved.IsRepresentable ∧ (unit = .minute ∨ unit = .second → IsInt32 amount.toInt)) ∧
      (∀ value, outcome = .ok value →
        ∃ reached : Timestamp, value = .dateTime reached ∧ reached.toMoment = moved) ∧
      ∀ stop, outcome = .error stop → ∃ reason, stop = .refused (.invalidConstant reason) := by
  intro moved outcome
  have shifts : outcome =
      if reaches : IsInt32 amount.toInt ∧ moved.IsRepresentable then
        .ok (.dateTime ⟨moved, reaches.2⟩)
      else refuse .overflow :=
    (evaluate_shift time _ unit _).trans (Literal.shift_int unit timestamp amount)
  have fits_iff : IsInt32 amount.toInt ∧ moved.IsRepresentable ↔
      moved.IsRepresentable ∧ (unit = .minute ∨ unit = .second → IsInt32 amount.toInt) := by
    constructor
    · rintro ⟨fits, inRange⟩
      exact ⟨inRange, fun _ => fits⟩
    · rintro ⟨inRange, short⟩
      refine ⟨?_, inRange⟩
      cases unit with
      | day => exact isInt32_of_isRepresentable_later (.inl rfl) inRange
      | hour => exact isInt32_of_isRepresentable_later (.inr rfl) inRange
      | minute => exact short (.inl rfl)
      | second => exact short (.inr rfl)
  rw [shifts, ← fits_iff]
  by_cases succeeds : IsInt32 amount.toInt ∧ moved.IsRepresentable
  · rw [dif_pos succeeds]
    refine ⟨⟨fun _ => succeeds, fun _ => ⟨_, rfl⟩⟩, ?_, ?_⟩
    · rintro value same
      cases same
      exact ⟨_, rfl, rfl⟩
    · rintro stop same
      cases same
  · rw [dif_neg succeeds]
    refine ⟨⟨?_, fun both => absurd both succeeds⟩, ?_, ?_⟩
    · rintro ⟨value, same⟩
      cases same
    · rintro value same
      cases same
    · rintro stop same
      cases same
      exact ⟨_, rfl⟩

/-- Three thousand million seconds after 1970 there is a date, which a shift by seconds does not
reach. A shift by minutes reaches it, and one by the least number of hours leads out of the range of
dates. -/
theorem Expr.exists_evaluate_shift_iff_seconds :
    let start : Timestamp := .epoch
    let shifted (unit : TimeUnit) (amount : Int64) : Expr :=
      shift (.constant (.dateTime start)) unit (.constant (.int amount))
    let reached : Timestamp := ⟨.ofUnix 3000000000 0 0, by decide⟩
    reached.toMoment = start.later (3000000000 * TimeUnit.second.nanos) ∧
      (∃ reason,
        (shifted .second 3000000000).evaluate start = refuse (.invalidConstant reason)) ∧
      (shifted .minute 50000000).evaluate start = .ok (.dateTime reached) ∧
      ¬ ∃ value, (shifted .hour Int64.minValue).evaluate start = .ok value := by
  intro start shifted reached
  have seconds := exists_evaluate_shift_iff start start .second 3000000000
  have minutes := exists_evaluate_shift_iff start start .minute 50000000
  have hours := exists_evaluate_shift_iff start start .hour Int64.minValue
  refine ⟨by decide, ?_, ?_, ?_⟩
  · cases evaluates : (shifted .second 3000000000).evaluate start with
    | ok value => exact absurd ((seconds.1.mp ⟨value, evaluates⟩).2 (.inr rfl)) (by decide)
    | error stop =>
        rcases seconds.2.2 stop evaluates with ⟨reason, rfl⟩
        exact ⟨reason, rfl⟩
  · rcases minutes.1.mpr ⟨by decide, by decide⟩ with ⟨value, evaluates⟩
    rcases minutes.2.1 value evaluates with ⟨⟨moment, inRange⟩, rfl, rfl⟩
    exact evaluates
  · exact fun succeeds => absurd (hours.1.mp succeeds).1 (by decide)

/-! ### Chains of shifts -/

/-- A shift by an expression for a whole number of units. -/
structure WholeShift (time : Timestamp) where
  unit : TimeUnit
  amount : Expr
  count : Int64
  evaluates : amount.evaluate time = .ok (.int count)

namespace WholeShift

variable {time : Timestamp}

/-- The nanoseconds that the shift comes to. -/
def nanos (shift : WholeShift time) : Int :=
  shift.count.toInt * shift.unit.nanos

/-- The nanoseconds that all of the shifts come to. -/
def total (shifts : List (WholeShift time)) : Int :=
  (shifts.map nanos).sum

theorem total_append_singleton (shifts : List (WholeShift time)) (last : WholeShift time) :
    total (shifts ++ [last]) = total shifts + last.nanos := by
  simp [total]

theorem total_eq_of_perm {shifts other : List (WholeShift time)} (sameShifts : shifts.Perm other) :
    total shifts = total other :=
  (sameShifts.map nanos).sum_eq

/-- The target moved by one shift after the other. -/
def chain (target : Expr) (shifts : List (WholeShift time)) : Expr :=
  shifts.foldl (fun moved shift => moved.shift shift.unit shift.amount) target

theorem chain_append_singleton (target : Expr) (shifts : List (WholeShift time))
    (last : WholeShift time) :
    chain target (shifts ++ [last]) = (chain target shifts).shift last.unit last.amount := by
  simp [chain]

theorem evaluate_shift_eq_dite {target : Expr} {timestamp : Timestamp} (shift : WholeShift time)
    (given : target.evaluate time = .ok (.dateTime timestamp)) :
    (target.shift shift.unit shift.amount).evaluate time =
      if reaches : IsInt32 shift.count.toInt ∧ (timestamp.later shift.nanos).IsRepresentable then
        .ok (.dateTime ⟨timestamp.later shift.nanos, reaches.2⟩)
      else refuse .overflow := by
  rw [Expr.evaluate_shift, given, shift.evaluates]
  exact Literal.shift_int shift.unit timestamp shift.count

/-- A shift that succeeds moves a timestamp by its nanoseconds. -/
theorem evaluate_shift_eq_ok {target : Expr} {timestamp : Timestamp} {value : Literal}
    (shift : WholeShift time) (given : target.evaluate time = .ok (.dateTime timestamp))
    (succeeds : (target.shift shift.unit shift.amount).evaluate time = .ok value) :
    ∃ moved : Timestamp,
      value = .dateTime moved ∧ moved.toMoment = timestamp.later shift.nanos := by
  rw [shift.evaluate_shift_eq_dite given] at succeeds
  split at succeeds
  · cases succeeds
    exact ⟨_, rfl, rfl⟩
  · cases succeeds

/-- A chain that succeeds moves its timestamp by the sum of its shifts. -/
theorem evaluate_chain_eq_ok {timestamp : Timestamp} {shifts : List (WholeShift time)}
    {value : Literal}
    (succeeds : (chain (.constant (.dateTime timestamp)) shifts).evaluate time = .ok value) :
    ∃ moved : Timestamp,
      value = .dateTime moved ∧ moved.toMoment = timestamp.later (total shifts) := by
  induction shifts using List.reverseRecOn generalizing value with
  | nil =>
      cases succeeds
      exact ⟨timestamp, rfl, (Moment.later_zero _).symm⟩
  | append_singleton shifts last ih =>
      rw [chain_append_singleton] at succeeds
      -- the chain before the last shift has a value, which is a timestamp by induction
      have before := succeeds
      rw [Expr.evaluate_shift] at before
      rcases bind_eq_ok.mp before with ⟨_, given, _⟩
      rcases ih given with ⟨earlier, rfl, earlierMoment⟩
      rcases evaluate_shift_eq_ok last given succeeds with ⟨moved, rfl, movedMoment⟩
      refine ⟨moved, rfl, ?_⟩
      rw [movedMoment, earlierMoment, Moment.later_later, total_append_singleton]

end WholeShift

/-- A chain of shifts by whole numbers of units that succeeds moves its timestamp by the sum of all
shifts, to the nanosecond. So two chains that come to the same sum, as they do if one is a
rearrangement of the other, have the same value and the same text. -/
theorem Expr.evaluate_chain {time : Timestamp} (timestamp : Timestamp)
    (shifts : List (WholeShift time)) {value : Literal}
    (succeeds :
      (WholeShift.chain (.constant (.dateTime timestamp)) shifts).evaluate time = .ok value) :
    (∃ moved : Timestamp,
        value = .dateTime moved ∧
          moved.toMoment = timestamp.later (WholeShift.total shifts)) ∧
      ∀ (other : List (WholeShift time)) (otherValue : Literal),
        (WholeShift.chain (.constant (.dateTime timestamp)) other).evaluate time =
          .ok otherValue →
        WholeShift.total shifts = WholeShift.total other ∨ shifts.Perm other →
        value = otherValue ∧ value.render = otherValue.render := by
  rcases WholeShift.evaluate_chain_eq_ok succeeds with ⟨moved, rfl, movedMoment⟩
  refine ⟨⟨moved, rfl, movedMoment⟩, ?_⟩
  intro other otherValue otherSucceeds alike
  have sameTotal : WholeShift.total shifts = WholeShift.total other :=
    alike.elim id WholeShift.total_eq_of_perm
  rcases WholeShift.evaluate_chain_eq_ok otherSucceeds with ⟨otherMoved, rfl, otherMoment⟩
  have same : moved = otherMoved := by
    apply Timestamp.eq_of_toMoment_eq
    rw [movedMoment, otherMoment, sameTotal]
  exact ⟨congrArg Literal.dateTime same, congrArg (Literal.render ∘ Literal.dateTime) same⟩

/-- A day later, two hours back and an hour on, the latter as a sum of minutes, from an hour before
a leap day; and the same shifts in another order. -/
theorem Expr.evaluate_chain_leapDay :
    let time : Timestamp := .epoch
    let start : Timestamp := ⟨.ofUnix 1709161200 1 3600, by decide⟩
    let dayOn : WholeShift time := ⟨.day, .constant (.int 1), 1, rfl⟩
    let hoursBack : WholeShift time := ⟨.hour, .negate (.constant (.int 2)), -2, rfl⟩
    let minutesOn : WholeShift time :=
      ⟨.minute, .binary .add (.constant (.int 20)) (.constant (.int 40)), 60, rfl⟩
    let reached : Timestamp := ⟨.ofUnix 1709244000 1 3600, by decide⟩
    ([dayOn, hoursBack, minutesOn].Perm [minutesOn, dayOn, hoursBack]) ∧
      (WholeShift.chain (.constant (.dateTime start)) [dayOn, hoursBack, minutesOn]).evaluate time =
        .ok (.dateTime reached) ∧
      reached.toMoment = start.later (WholeShift.total [dayOn, hoursBack, minutesOn]) ∧
      (Literal.dateTime reached).render = "'2024-02-29 22:00:00.0000'" ∧
      ∀ value, (WholeShift.chain (.constant (.dateTime start))
          [minutesOn, dayOn, hoursBack]).evaluate time = .ok value →
        Literal.dateTime reached = value ∧ (Literal.dateTime reached).render = value.render := by
  intro time start dayOn hoursBack minutesOn reached
  have rotated : [dayOn, hoursBack, minutesOn].Perm [minutesOn, dayOn, hoursBack] :=
    @List.perm_append_comm _ [dayOn, hoursBack] [minutesOn]
  have afterDay := (dayOn.evaluate_shift_eq_dite (rfl : (Expr.constant _).evaluate time =
    .ok (.dateTime start))).trans (dif_pos ⟨by decide, by decide⟩)
  have afterHours := (hoursBack.evaluate_shift_eq_dite afterDay).trans
    (dif_pos ⟨by decide, by decide⟩)
  have afterMinutes := (minutesOn.evaluate_shift_eq_dite afterHours).trans
    (dif_pos ⟨by decide, by decide⟩)
  have reaches {moved : Timestamp}
      (sameMoment : moved.toMoment =
        ((start.later dayOn.nanos).later hoursBack.nanos).later minutesOn.nanos) :
      moved = reached :=
    Timestamp.eq_of_toMoment_eq (sameMoment.trans (by decide))
  have succeeds : (WholeShift.chain (.constant (.dateTime start))
      [dayOn, hoursBack, minutesOn]).evaluate time = .ok (.dateTime reached) :=
    afterMinutes.trans (congrArg (Except.ok ∘ Literal.dateTime) (reaches rfl))
  have chained := evaluate_chain start _ succeeds
  refine ⟨rotated, succeeds, by decide, by decide, ?_⟩
  exact fun value otherSucceeds => chained.2 _ value otherSucceeds (.inr rotated)

end ContentQuery
