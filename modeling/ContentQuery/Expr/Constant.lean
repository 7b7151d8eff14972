import ContentQuery.CompileError
import ContentQuery.Expr.Basic
import ContentQuery.Literal.Text
import ContentQuery.Text.Case

/-!
# Constant expressions

Constant expressions are evaluated when the query is compiled. Integer arithmetic is exact, float
arithmetic has to stay finite, and time shifts have to reach a date that can be represented; what
does not is an invalid constant. `Expr.evaluate` takes the time that the clock shows, so every `now`
in one query is the same instant.
-/

namespace ContentQuery

namespace CompileError

/-- An operator met a literal of a kind it has no meaning for. -/
def wrongOperand (operator : String) (operand : Literal) : CompileError :=
  .invalidConstant ("operator '" ++ operator ++ "' does not apply to " ++ operand.kind)

/-- A condition has to be a boolean. -/
def notCondition (value : Literal) : CompileError :=
  .invalidConstant ("expected a boolean condition, found " ++ value.kind)

/-- Two literals have no order. -/
def unordered (left right : Literal) : CompileError :=
  .invalidConstant ("cannot order " ++ left.kind ++ " against " ++ right.kind)

/-- A result outside the range of its kind. -/
def overflow : CompileError :=
  .invalidConstant "arithmetic overflow in constant expression"

/-- The negation of the least integer. -/
def negationOverflow : CompileError :=
  .invalidConstant "integer overflow in negation"

/-- A float result that is no number. -/
def notFinite : CompileError :=
  .invalidConstant "non-finite result in constant expression"

/-- A call with a number of arguments that its method does not take. -/
def argumentCount (method : Method) (count : Nat) : CompileError :=
  .unsupportedExpression ("call '" ++ method.name ++ "' with " ++ count.repr ++ " argument(s)")

/-- A method of the candidate called on a constant. -/
def callOnConstant (method : Method) : CompileError :=
  .unsupportedExpression ("call '" ++ method.name ++ "' on a constant")

/-- An expression that reads the candidate stands where a constant is evaluated. -/
def candidateRead (expr : Expr) : CompileError :=
  .unsupportedExpression (expr.describe ++ " in a constant expression")

end CompileError

/-- The 64-bit integer with the given value, if there is one. -/
def int64? (value : Int) : Option Int64 :=
  if Int64.minValue.toInt ≤ value ∧ value ≤ Int64.maxValue.toInt then some (Int64.ofInt value)
  else none

theorem int64?_eq_some_iff {value : Int} {word : Int64} :
    int64? value = some word ↔ word.toInt = value := by
  constructor
  · intro fits
    simp only [int64?, Option.ite_none_right_eq_some, Option.some.injEq] at fits
    obtain ⟨⟨lower, upper⟩, rfl⟩ := fits
    exact Int64.toInt_ofInt_of_le lower (Int.lt_add_one_of_le upper)
  · rintro rfl
    have lower := word.minValue_le_toInt
    have upper := word.toInt_le
    rw [int64?, if_pos ⟨lower, upper⟩, Int64.ofInt_toInt]

namespace Literal

/-- The truth value that a condition has. -/
def condition : Literal → Except (Stop CompileError) Bool
  | bool value => .ok value
  | value => refuse (.notCondition value)

/-- Logical negation. -/
def logicalNot : Literal → Except (Stop CompileError) Literal
  | bool value => .ok (bool !value)
  | value => refuse (.wrongOperand "!" value)

/-- Arithmetic negation. -/
def arithmeticNegation : Literal → Except (Stop CompileError) Literal
  | int value =>
    match int64? (-value.toInt) with
    | some negated => .ok (int negated)
    | none => refuse .negationOverflow
  | float value => .ok (float (-value))
  | value => refuse (.wrongOperand "-" value)

/-- An exact integer as a literal. -/
def exactInt (value : Int) : Except (Stop CompileError) Literal :=
  match int64? value with
  | some word => .ok (int word)
  | none => refuse .overflow

/-- A float as a literal, provided it is a number. -/
def finiteFloat (value : Float) : Except (Stop CompileError) Literal :=
  if isFiniteFloat value then .ok (float value) else refuse .notFinite

/-- The operations of arithmetic. -/
inductive ArithmeticOp where
  | add
  | sub
  | mul
deriving DecidableEq, Repr

namespace ArithmeticOp

/-- The symbol of an operation. -/
def symbol : ArithmeticOp → String
  | add => "+"
  | sub => "-"
  | mul => "*"

/-- The operation on integers. -/
def onInt : ArithmeticOp → Int → Int → Int
  | add => (· + ·)
  | sub => (· - ·)
  | mul => (· * ·)

/-- The operation on floats. -/
def onFloat : ArithmeticOp → Float → Float → Float
  | add => (· + ·)
  | sub => (· - ·)
  | mul => (· * ·)

/-- Two integers are combined exactly, an integer and a float as floats. Texts can be added, which
joins them. -/
def apply (op : ArithmeticOp) : Literal → Literal → Except (Stop CompileError) Literal
  | int left, int right => exactInt (op.onInt left.toInt right.toInt)
  | int left, float right => finiteFloat (op.onFloat (Float.ofInt left.toInt) right)
  | float left, int right => finiteFloat (op.onFloat left (Float.ofInt right.toInt))
  | float left, float right => finiteFloat (op.onFloat left right)
  | left, right =>
    match op, left, right with
    | add, text front, text back => .ok (text (front ++ back))
    | _, _, _ => refuse (.wrongOperand op.symbol left)

end ArithmeticOp

/-- A comparison of two literals. Equality is defined of all of them, an order only of some. -/
def compareWith (holds : Ordering → Bool) (left right : Literal) :
    Except (Stop CompileError) Literal :=
  match left.order right with
  | some order => .ok (bool (holds order))
  | none => refuse (.unordered left right)

/-- The length of a time shift in nanoseconds. -/
def shiftLength (unit : TimeUnit) : Literal → Except (Stop CompileError) Int
  | int amount =>
    match unit.wholeNanos? amount.toInt with
    | some nanos => .ok nanos
    | none => refuse .overflow
  | float amount =>
    match unit.fractionalNanos? amount with
    | some nanos => .ok nanos
    | none => refuse .overflow
  | amount => refuse (.wrongOperand "date shift" amount)

/-- Moves a timestamp by an amount of time units. -/
def shift (unit : TimeUnit) (start amount : Literal) : Except (Stop CompileError) Literal :=
  match start with
  | dateTime timestamp => do
    match timestamp.add? (← shiftLength unit amount) with
    | some moved => .ok (dateTime moved)
    | none => refuse .overflow
  | other => refuse (.wrongOperand "date shift" other)

/-- A test of a text against the text of a literal. -/
def matchTest (method : Method) (holds : List Char → List Char → Bool)
    (subject argument : Literal) :
    Except (Stop CompileError) Literal :=
  match subject, argument.matchText with
  | text value, some wanted => .ok (bool (holds wanted.toList value.toList))
  | _, _ => refuse (.wrongOperand method.name subject)

/-- A conversion of text; null stays null. -/
def mapText (method : Method) (convert : String → String) :
    Literal → Except (Stop CompileError) Literal
  | text value => .ok (text (convert value))
  | null => .ok null
  | other => refuse (.wrongOperand method.name other)

end Literal

namespace Method

/-- A method without arguments applied to a constant. -/
def applyAlone (method : Method) (subject : Literal) : Except (Stop CompileError) Literal :=
  match method with
  | toLower => subject.mapText method Text.lower
  | toUpper => subject.mapText method Text.upper
  | _ => refuse (.argumentCount method 0)

/-- A method with one argument applied to a constant. Methods of the candidate do not look at the
argument, which may have failed. -/
def applyTo (method : Method) (subject : Literal) (argument : Except (Stop CompileError) Literal) :
    Except (Stop CompileError) Literal := do
  match method with
  | addDays => subject.shift .day (← argument)
  | addHours => subject.shift .hour (← argument)
  | addMinutes => subject.shift .minute (← argument)
  | addSeconds => subject.shift .second (← argument)
  | startsWith =>
    subject.matchTest method (fun wanted chars => wanted.isPrefixOf chars) (← argument)
  | endsWith =>
    subject.matchTest method (fun wanted chars => wanted.isSuffixOf chars) (← argument)
  | contains =>
    subject.matchTest method
      (fun wanted chars => @decide _ (List.instDecidableIsInfixOfDecidableEq wanted chars))
      (← argument)
  | type | typeIs | inFolder | inTree => refuse (.callOnConstant method)
  | toLower | toUpper => refuse (.argumentCount method 1)

end Method

/-- The time of a clock in UTC. A time that has no date there panics. -/
def readClock (time : Timestamp) : Except (Stop CompileError) Timestamp :=
  match time.toUtc? with
  | some utc => .ok utc
  | none => .error .panicked

namespace Expr

/-- The value of a constant expression when the clock shows the given time. The clock is read only
where the value depends on it, and conditions and logical operators evaluate only the operands that
decide the result. -/
def evaluate (time : Timestamp) : Expr → Except (Stop CompileError) Literal
  | constant value => .ok value
  | now => do return .dateTime (← readClock time)
  | today => do return .dateTime (← readClock time).startOfDay
  | field name => refuse (.candidateRead (field name))
  | candidate => refuse (.candidateRead candidate)
  | handlerIs handler => refuse (.candidateRead (handlerIs handler))
  | not operand => do (← operand.evaluate time).logicalNot
  | negate operand => do (← operand.evaluate time).arithmeticNegation
  | binary op left right => do
    let first ← left.evaluate time
    match op with
    | .and =>
      if ← first.condition then return .bool (← (← right.evaluate time).condition)
      else return .bool false
    | .or =>
      if ← first.condition then return .bool true
      else return .bool (← (← right.evaluate time).condition)
    | .eq => return .bool (first == (← right.evaluate time))
    | .ne => return .bool (first != (← right.evaluate time))
    | .lt => first.compareWith Ordering.isLT (← right.evaluate time)
    | .le => first.compareWith Ordering.isLE (← right.evaluate time)
    | .gt => first.compareWith Ordering.isGT (← right.evaluate time)
    | .ge => first.compareWith Ordering.isGE (← right.evaluate time)
    | .add => Literal.ArithmeticOp.add.apply first (← right.evaluate time)
    | .sub => Literal.ArithmeticOp.sub.apply first (← right.evaluate time)
    | .mul => Literal.ArithmeticOp.mul.apply first (← right.evaluate time)
  | conditional test ifTrue ifFalse => do
    if ← (← test.evaluate time).condition then ifTrue.evaluate time
    else ifFalse.evaluate time
  | call method target [] => do
    if method.arity = 0 then method.applyAlone (← target.evaluate time)
    else refuse (.argumentCount method 0)
  | call method target [argument] => do
    if method.arity = 1 then
      method.applyTo (← target.evaluate time) (argument.evaluate time)
    else refuse (.argumentCount method 1)
  | call method _ arguments => refuse (.argumentCount method arguments.length)

/-- The truth value of a constant condition. -/
def evaluateCondition (time : Timestamp) (expr : Expr) : Except (Stop CompileError) Bool := do
  (← expr.evaluate time).condition

end Expr

end ContentQuery
