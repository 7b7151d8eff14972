import ContentQuery.Proofs.Expr.Parts
import ContentQuery.Proofs.Expr.Shift

/-!
# Offsets of timestamps in constant expressions

The value of a constant expression does not depend on the offsets that its timestamps were given in:
with all of them in UTC the value is the same, in UTC. Only time shifts look at offsets, when they
ask whether a date can be represented, so this holds where the dates that they start from and lead
to are in the range of dates both in their own offset and in UTC, or in neither.
-/

namespace ContentQuery

/-- The date lies in the range of dates in its own offset just if it does in UTC. -/
def Moment.RangeAgreesInUtc (moment : Moment) : Prop :=
  moment.IsRepresentable ↔ moment.inUtc.IsRepresentable

instance (moment : Moment) : Decidable moment.RangeAgreesInUtc :=
  inferInstanceAs (Decidable (_ ↔ _))

namespace Timestamp

variable {timestamp first second : Timestamp}

/-- The same instant in UTC, where it has a date there. -/
def inUtc (timestamp : Timestamp) : Timestamp :=
  timestamp.toUtc?.getD timestamp

theorem toUtc?_eq_some {utc : Timestamp} :
    timestamp.toUtc? = some utc ↔ utc.toMoment = timestamp.toMoment.inUtc := by
  rw [toUtc?, Moment.toTimestamp?]
  constructor
  · intro converts
    split at converts
    · cases converts
      rfl
    · cases converts
  · intro sameMoment
    rw [dif_pos (sameMoment ▸ utc.representable)]
    exact congrArg some (eq_of_toMoment_eq sameMoment.symm)

theorem toUtc?_eq_of_instant_eq (sameInstant : first.instant = second.instant) :
    first.toUtc? = second.toUtc? := by
  rw [toUtc?, toUtc?, Moment.inUtc, Moment.inUtc, sameInstant]

theorem inUtc_of_offset_eq_zero (isUtc : timestamp.offset = 0) : timestamp.inUtc = timestamp := by
  have converts : timestamp.toUtc? = some timestamp := by
    rw [toUtc?_eq_some, Moment.inUtc, ← isUtc]
  rw [inUtc, converts, Option.getD_some]

theorem toMoment_inUtc (inRange : timestamp.toMoment.inUtc.IsRepresentable) :
    timestamp.inUtc.toMoment = timestamp.toMoment.inUtc := by
  have converts : timestamp.toUtc? = some ⟨timestamp.toMoment.inUtc, inRange⟩ :=
    toUtc?_eq_some.mpr rfl
  rw [inUtc, converts, Option.getD_some]

@[simp]
theorem instant_inUtc (timestamp : Timestamp) : timestamp.inUtc.instant = timestamp.instant := by
  rw [inUtc]
  cases converts : timestamp.toUtc? with
  | none => rfl
  | some utc => rw [Option.getD_some, toUtc?_eq_some.mp converts, Moment.inUtc]

@[simp]
theorem toUtc?_inUtc (timestamp : Timestamp) : timestamp.inUtc.toUtc? = timestamp.toUtc? :=
  toUtc?_eq_of_instant_eq timestamp.instant_inUtc

@[simp]
theorem text_inUtc (timestamp : Timestamp) : timestamp.inUtc.text = timestamp.text := by
  rw [text, text, instant_inUtc]

end Timestamp

/-! ### Values -/

namespace Literal

/-- The literal with its timestamp in UTC. -/
def inUtc : Literal → Literal
  | dateTime value => dateTime value.inUtc
  | value => value

@[simp]
theorem kind_inUtc (value : Literal) : value.inUtc.kind = value.kind := by
  cases value <;> rfl

@[simp]
theorem render_inUtc (value : Literal) : value.inUtc.render = value.render := by
  cases value <;> simp [inUtc, render]

@[simp]
theorem isPrintable_inUtc (value : Literal) : value.inUtc.isPrintable = value.isPrintable := by
  cases value <;> simp [inUtc, isPrintable]

@[simp]
theorem matchText_inUtc (value : Literal) : value.inUtc.matchText = value.matchText := by
  cases value <;> rfl

@[simp]
theorem beq_inUtc (left right : Literal) : (left.inUtc == right.inUtc) = (left == right) := by
  change beq _ _ = beq _ _
  cases left <;> cases right <;> simp [inUtc, beq]

@[simp]
theorem order_inUtc (left right : Literal) : left.inUtc.order right.inUtc = left.order right := by
  cases left <;> cases right <;> simp [inUtc, order, Timestamp.order]

theorem condition_inUtc (value : Literal) : value.inUtc.condition = value.condition := by
  cases value <;> rfl

theorem logicalNot_inUtc (value : Literal) :
    value.inUtc.logicalNot = inUtc <$> value.logicalNot := by
  cases value <;> rfl

theorem arithmeticNegation_inUtc (value : Literal) :
    value.inUtc.arithmeticNegation = inUtc <$> value.arithmeticNegation := by
  cases value with
  | int value =>
      simp only [inUtc, arithmeticNegation]
      split <;> rfl
  | _ => rfl

theorem map_inUtc_exactInt (value : Int) : inUtc <$> exactInt value = exactInt value := by
  rw [exactInt]
  split <;> rfl

theorem map_inUtc_finiteFloat (value : Float) :
    inUtc <$> finiteFloat value = finiteFloat value := by
  rw [finiteFloat]
  split <;> rfl

theorem arithmetic_inUtc (op : ArithmeticOp) (left right : Literal) :
    op.apply left.inUtc right.inUtc = inUtc <$> op.apply left right := by
  cases left with
  | int left =>
      cases right with
      | int right => exact (map_inUtc_exactInt _).symm
      | float right => exact (map_inUtc_finiteFloat _).symm
      | _ => cases op <;> rfl
  | float left =>
      cases right with
      | int right | float right => exact (map_inUtc_finiteFloat _).symm
      | _ => cases op <;> rfl
  | _ => cases right <;> cases op <;> rfl

theorem compareWith_inUtc (holds : Ordering → Bool) (left right : Literal) :
    left.inUtc.compareWith holds right.inUtc = inUtc <$> left.compareWith holds right := by
  rw [compareWith, compareWith, order_inUtc, CompileError.unordered, kind_inUtc, kind_inUtc]
  cases left.order right <;> rfl

theorem shiftLength_inUtc (unit : TimeUnit) (amount : Literal) :
    shiftLength unit amount.inUtc = shiftLength unit amount := by
  cases amount <;> rfl

/-- The dates that a shift starts from and leads to, whether the latter can be represented
or not. -/
def shiftedDates (unit : TimeUnit) : Literal → Literal → List Moment
  | dateTime timestamp, amount =>
    metAfter (shiftLength unit amount) fun nanos =>
      [timestamp.toMoment, timestamp.later nanos]
  | _, _ => []

theorem shifted_inUtc {moved converted : Moment} (sameMoment : converted = moved.inUtc)
    (agrees : moved.RangeAgreesInUtc) :
    (if inRange : converted.IsRepresentable then .ok (dateTime ⟨converted, inRange⟩)
      else refuse .overflow) =
      inUtc <$> (if inRange : moved.IsRepresentable then .ok (dateTime ⟨moved, inRange⟩)
        else refuse .overflow : Except (Stop CompileError) Literal) := by
  subst sameMoment
  by_cases inRange : moved.IsRepresentable
  · rw [dif_pos inRange, dif_pos (agrees.mp inRange)]
    apply congrArg (Except.ok ∘ dateTime)
    apply Timestamp.eq_of_toMoment_eq
    exact (@Timestamp.toMoment_inUtc ⟨moved, inRange⟩ (agrees.mp inRange)).symm
  · rw [dif_neg inRange, dif_neg (mt agrees.mpr inRange)]
    rfl

theorem shift_inUtc (unit : TimeUnit) (start amount : Literal)
    (inRange : ∀ date ∈ shiftedDates unit start amount, date.RangeAgreesInUtc) :
    shift unit start.inUtc amount.inUtc = inUtc <$> shift unit start amount := by
  cases start with
  | dateTime timestamp =>
      rw [inUtc, shift_dateTime, shift_dateTime, shiftLength_inUtc]
      cases length : shiftLength unit amount with
      | error stop => rfl
      | ok nanos =>
          rw [shiftedDates, metAfter_of_eq_ok length, List.forall_mem_cons,
            List.forall_mem_singleton] at inRange
          rcases inRange with ⟨startAgrees, agrees⟩
          have sameStart := Timestamp.toMoment_inUtc (startAgrees.mp timestamp.representable)
          have sameMoment :
              timestamp.inUtc.later nanos = (timestamp.later nanos).inUtc := by
            rw [sameStart, Moment.later, Moment.inUtc, Moment.later, Moment.inUtc]
          exact shifted_inUtc sameMoment agrees
  | _ => rfl

theorem matchTest_inUtc (method : Method) (holds : List Char → List Char → Bool)
    (subject argument : Literal) :
    matchTest method holds subject.inUtc argument.inUtc =
      inUtc <$> matchTest method holds subject argument := by
  simp only [matchTest, matchText_inUtc]
  cases subject <;> cases argument.matchText <;> rfl

theorem mapText_inUtc (method : Method) (convert : String → String) (value : Literal) :
    value.inUtc.mapText method convert = inUtc <$> value.mapText method convert := by
  cases value <;> rfl

end Literal

open Literal (inUtc)

/-! ### Calls -/

namespace Method

/-- The unit of a time shift. -/
def unit? : Method → Option TimeUnit
  | addDays => some .day
  | addHours => some .hour
  | addMinutes => some .minute
  | addSeconds => some .second
  | _ => none

/-- On a constant the method looks at its argument. -/
def evaluatesArgument : Method → Bool
  | type | typeIs | inFolder | inTree | toLower | toUpper => false
  | _ => true

/-- The dates that a call starts from and leads to if it is a time shift. -/
def shiftedDates (method : Method) (subject argument : Literal) : List Moment :=
  method.unit?.elim [] fun unit => Literal.shiftedDates unit subject argument

theorem applyAlone_inUtc (method : Method) (subject : Literal) :
    method.applyAlone subject.inUtc = inUtc <$> method.applyAlone subject := by
  cases method with
  | toLower | toUpper => exact Literal.mapText_inUtc _ _ subject
  | _ => rfl

theorem applyTo_inUtc (method : Method) (subject : Literal)
    {argument argument' : Except (Stop CompileError) Literal}
    (sameArgument : method.evaluatesArgument = true → argument' = inUtc <$> argument)
    (inRange : method.evaluatesArgument = true →
      ∀ date ∈ metAfter argument (method.shiftedDates subject), date.RangeAgreesInUtc) :
    method.applyTo subject.inUtc argument' = inUtc <$> method.applyTo subject argument := by
  cases method with
  | addDays | addHours | addMinutes | addSeconds =>
      rw [sameArgument rfl]
      apply map_bind_eq_map
      intro amount evaluates
      have reaches := inRange rfl
      rw [metAfter_of_eq_ok evaluates] at reaches
      exact Literal.shift_inUtc _ subject amount reaches
  | startsWith | endsWith | contains =>
      rw [sameArgument rfl]
      apply map_bind_eq_map
      intro wanted _
      exact Literal.matchTest_inUtc _ _ subject wanted
  | type | typeIs | inFolder | inTree | toLower | toUpper => rfl

end Method

/-- The operator looks at its right operand when the left one has the given value. -/
def BinaryOp.evaluatesRight : BinaryOp → Literal → Bool
  | and, .bool holds => holds
  | or, .bool holds => !holds
  | and, _ | or, _ => false
  | _, _ => true

/-! ### Expressions -/

namespace Expr

mutual

/-- The expression with all of its timestamps in UTC. -/
def inUtc : Expr → Expr
  | constant value => constant value.inUtc
  | not operand => not operand.inUtc
  | negate operand => negate operand.inUtc
  | binary op left right => binary op left.inUtc right.inUtc
  | conditional test ifTrue ifFalse => conditional test.inUtc ifTrue.inUtc ifFalse.inUtc
  | call method target arguments => call method target.inUtc (allInUtc arguments)
  | expr => expr

/-- The expressions with all of their timestamps in UTC. -/
def allInUtc : List Expr → List Expr
  | [] => []
  | expr :: exprs => expr.inUtc :: allInUtc exprs

end

theorem allInUtc_eq_map (exprs : List Expr) : allInUtc exprs = exprs.map inUtc := by
  induction exprs with
  | nil => rfl
  | cons expr exprs ih => rw [allInUtc, ih, List.map_cons]

@[simp]
theorem isConstant_inUtc (expr : Expr) : expr.inUtc.isConstant = expr.isConstant := by
  induction expr with
  | call method target arguments ihTarget ihArguments =>
      have sameArguments : areConstant (allInUtc arguments) = areConstant arguments := by
        induction arguments with
        | nil => rfl
        | cons argument arguments ih =>
            rcases List.forall_mem_cons.mp ihArguments with ⟨head, tail⟩
            rw [allInUtc, areConstant, areConstant, head, ih tail]
      rw [inUtc, isConstant, isConstant, ihTarget, sameArguments]
  | _ => simp_all [inUtc, isConstant]

@[simp]
theorem describe_inUtc (expr : Expr) : expr.inUtc.describe = expr.describe := by
  cases expr with
  | constant value => rw [inUtc, describe, describe, Literal.kind_inUtc]
  | _ => rfl

/-- The dates that the time shifts in a constant expression start from and lead to when it is
evaluated. Operands that evaluation does not reach add none. -/
def shiftedDates (time : Timestamp) : Expr → List Moment
  | not operand | negate operand => operand.shiftedDates time
  | binary op left right =>
    left.shiftedDates time ++ metAfter (left.evaluate time) fun first =>
      if op.evaluatesRight first then right.shiftedDates time else []
  | conditional test ifTrue ifFalse =>
    test.shiftedDates time ++ metAfter (test.evaluateCondition time) fun holds =>
      if holds then ifTrue.shiftedDates time else ifFalse.shiftedDates time
  | call method target [] => if method.arity = 0 then target.shiftedDates time else []
  | call method target [argument] =>
    if method.arity = 1 then
      target.shiftedDates time ++ metAfter (target.evaluate time) fun subject =>
        if method.evaluatesArgument then
          argument.shiftedDates time ++
            metAfter (argument.evaluate time) (method.shiftedDates subject)
        else []
    else []
  | _ => []

variable {time : Timestamp}

/-- The dates that the shifts in a constant expression start from and lead to lie in the range of
dates in their own offset just if they do in UTC. -/
def RangeAgreesInUtc (time : Timestamp) (expr : Expr) : Prop :=
  ∀ date ∈ expr.shiftedDates time, date.RangeAgreesInUtc

/-- With all timestamps in UTC the value of the expression is the same in UTC, or the same error. -/
def KeepsValueInUtc (time : Timestamp) (expr : Expr) : Prop :=
  expr.inUtc.evaluate time = Literal.inUtc <$> expr.evaluate time

theorem KeepsValueInUtc.condition {operand : Expr} (keeps : operand.KeepsValueInUtc time) :
    operand.inUtc.evaluateCondition time = operand.evaluateCondition time := by
  rw [evaluateCondition, evaluateCondition, keeps]
  cases operand.evaluate time with
  | error error => rfl
  | ok value => exact value.condition_inUtc

theorem KeepsValueInUtc.map_bool_condition {operand : Expr} (keeps : operand.KeepsValueInUtc time) :
    (do return Literal.bool (← (← operand.inUtc.evaluate time).condition)) =
      Literal.inUtc <$>
        (do return Literal.bool (← (← operand.evaluate time).condition) :
          Except (Stop CompileError) Literal) := by
  rw [keeps]
  apply map_bind_eq_map
  intro value _
  rw [Literal.condition_inUtc]
  cases value.condition <;> rfl

theorem keepsValueInUtc_binary (op : BinaryOp) {left right : Expr}
    (ihLeft : left.RangeAgreesInUtc time → left.KeepsValueInUtc time)
    (ihRight : right.RangeAgreesInUtc time → right.KeepsValueInUtc time)
    (inRange : (binary op left right).RangeAgreesInUtc time) :
    (binary op left right).KeepsValueInUtc time := by
  rcases List.forall_mem_append.mp inRange with ⟨leftInRange, rightInRange⟩
  rw [KeepsValueInUtc, inUtc, evaluate, evaluate, ihLeft leftInRange]
  apply map_bind_eq_map
  intro first evaluates
  rw [metAfter_of_eq_ok evaluates] at rightInRange
  -- the dates of the right operand are among those of the whole just where its value is asked for
  have sameRight (reached : op.evaluatesRight first = true) : right.KeepsValueInUtc time := by
    rw [if_pos reached] at rightInRange
    exact ihRight rightInRange
  cases op with
  | and =>
      rw [Literal.condition_inUtc]
      cases first with
      | bool holds =>
          cases holds with
          | true => exact (sameRight rfl).map_bool_condition
          | false => rfl
      | _ => rfl
  | or =>
      rw [Literal.condition_inUtc]
      cases first with
      | bool holds =>
          cases holds with
          | true => rfl
          | false => exact (sameRight rfl).map_bool_condition
      | _ => rfl
  | eq | ne =>
      rw [sameRight rfl]
      apply map_bind_eq_map
      intro second _
      simp only [bne, Literal.beq_inUtc]
      rfl
  | lt | le | gt | ge =>
      rw [sameRight rfl]
      apply map_bind_eq_map
      intro second _
      exact first.compareWith_inUtc _ second
  | add | sub | mul =>
      rw [sameRight rfl]
      apply map_bind_eq_map
      intro second _
      exact Literal.arithmetic_inUtc _ first second

theorem keepsValueInUtc_call (method : Method) {target : Expr} {arguments : List Expr}
    (ihTarget : target.RangeAgreesInUtc time → target.KeepsValueInUtc time)
    (ihArguments : ∀ argument ∈ arguments, argument.RangeAgreesInUtc time →
      argument.KeepsValueInUtc time)
    (inRange : (call method target arguments).RangeAgreesInUtc time) :
    (call method target arguments).KeepsValueInUtc time := by
  match arguments with
  | [] =>
      rw [RangeAgreesInUtc, shiftedDates] at inRange
      rw [KeepsValueInUtc, inUtc, allInUtc, evaluate, evaluate]
      split
      · rename_i takesNone
        rw [if_pos takesNone] at inRange
        rw [ihTarget inRange]
        apply map_bind_eq_map
        intro subject _
        exact method.applyAlone_inUtc subject
      · rfl
  | [argument] =>
      rw [RangeAgreesInUtc, shiftedDates] at inRange
      rw [KeepsValueInUtc, inUtc, allInUtc, allInUtc, evaluate, evaluate]
      split
      · rename_i takesOne
        rw [if_pos takesOne] at inRange
        rcases List.forall_mem_append.mp inRange with ⟨targetInRange, restInRange⟩
        rw [ihTarget targetInRange]
        apply map_bind_eq_map
        intro subject evaluates
        rw [metAfter_of_eq_ok evaluates] at restInRange
        apply method.applyTo_inUtc subject
        · intro reached
          rw [if_pos reached] at restInRange
          exact ihArguments argument (by simp) (List.forall_mem_append.mp restInRange).1
        · intro reached
          rw [if_pos reached] at restInRange
          exact (List.forall_mem_append.mp restInRange).2
      · rfl
  | first :: second :: rest =>
      simp only [KeepsValueInUtc, inUtc, allInUtc, evaluate, List.length_cons, allInUtc_eq_map,
        List.length_map]
      rfl

/-- The clock is read in UTC. -/
theorem keepsValueInUtc_readClock {convert : Timestamp → Timestamp}
    (staysUtc : ∀ utc : Timestamp, utc.offset = 0 → (convert utc).offset = 0) :
    (do return Literal.dateTime (convert (← readClock time))) =
      Literal.inUtc <$>
        (do return Literal.dateTime (convert (← readClock time)) :
          Except (Stop CompileError) Literal) := by
  rw [readClock]
  cases converts : time.toUtc? with
  | none => rfl
  | some utc =>
      have isUtc : utc.offset = 0 := by rw [Timestamp.toUtc?_eq_some.mp converts, Moment.inUtc]
      apply congrArg (Except.ok ∘ Literal.dateTime)
      exact (Timestamp.inUtc_of_offset_eq_zero (staysUtc utc isUtc)).symm

/-- With all timestamps in UTC a constant expression has the same value in UTC, or it fails with the
same error. -/
theorem evaluate_inUtc (expr : Expr) (inRange : expr.RangeAgreesInUtc time) :
    expr.KeepsValueInUtc time := by
  induction expr with
  | constant value => rfl
  | field | candidate | handlerIs => rfl
  | now => exact keepsValueInUtc_readClock fun _ isUtc => isUtc
  | today => exact keepsValueInUtc_readClock fun _ isUtc => isUtc
  | not operand ih =>
      rw [KeepsValueInUtc, inUtc, evaluate, evaluate, ih inRange]
      apply map_bind_eq_map
      intro value _
      exact value.logicalNot_inUtc
  | negate operand ih =>
      rw [KeepsValueInUtc, inUtc, evaluate, evaluate, ih inRange]
      apply map_bind_eq_map
      intro value _
      exact value.arithmeticNegation_inUtc
  | binary op left right ihLeft ihRight =>
      exact keepsValueInUtc_binary op ihLeft ihRight inRange
  | conditional test ifTrue ifFalse ihTest ihTrue ihFalse =>
      rcases List.forall_mem_append.mp inRange with ⟨testInRange, branchInRange⟩
      rw [KeepsValueInUtc, inUtc, evaluate_conditional_eq_bind, evaluate_conditional_eq_bind,
        (ihTest testInRange).condition]
      cases decides : test.evaluateCondition time with
      | error error => rfl
      | ok holds =>
          rw [metAfter_of_eq_ok decides] at branchInRange
          cases holds with
          | true => exact ihTrue branchInRange
          | false => exact ihFalse branchInRange
  | call method target arguments ihTarget ihArguments =>
      exact keepsValueInUtc_call method ihTarget ihArguments inRange

end Expr

end ContentQuery
