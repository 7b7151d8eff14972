import ContentQuery.Proofs.Expr.Parts

/-!
# Evaluation with outside values

An operator is applied to a value and to the outcome of its second operand, and a method to a value
and to the outcome of its first argument; either may leave that outcome aside.

Evaluation refuses whatever reads the candidate. Here it is also given any other value that such an
expression could have, and any value for an argument that a call does not have. The main statement
is that an expression evaluates alike with all such values, as long as those agree that read the
candidate inside it.
-/

namespace ContentQuery

/-- An operator applied to its first operand and the outcome of the second one. -/
def BinaryOp.applyTo (op : BinaryOp) (first : Literal)
    (second : Except (Stop CompileError) Literal) :
    Except (Stop CompileError) Literal := do
  match op with
  | .and =>
    if ← first.condition then return .bool (← (← second).condition)
    else return .bool false
  | .or =>
    if ← first.condition then return .bool true
    else return .bool (← (← second).condition)
  | .eq => return .bool (first == (← second))
  | .ne => return .bool (first != (← second))
  | .lt => first.compareWith Ordering.isLT (← second)
  | .le => first.compareWith Ordering.isLE (← second)
  | .gt => first.compareWith Ordering.isGT (← second)
  | .ge => first.compareWith Ordering.isGE (← second)
  | .add => Literal.ArithmeticOp.add.apply first (← second)
  | .sub => Literal.ArithmeticOp.sub.apply first (← second)
  | .mul => Literal.ArithmeticOp.mul.apply first (← second)

/-- A method applied to a constant and the outcome of its first argument, if it takes one. -/
def Method.applyFirst (method : Method) (subject : Literal)
    (argument : Except (Stop CompileError) Literal) :
    Except (Stop CompileError) Literal :=
  if method.arity = 0 then method.applyAlone subject else method.applyTo subject argument

theorem Method.arity_le_one (method : Method) : method.arity ≤ 1 := by
  cases method <;> decide

namespace Expr

theorem evaluate_binary (time : Timestamp) (op : BinaryOp) (left right : Expr) :
    (binary op left right).evaluate time =
      left.evaluate time >>= fun first => op.applyTo first (right.evaluate time) := by
  cases op <;> rfl

/-- The number of arguments is looked at first, so a missing argument could have any value. -/
theorem evaluate_call (time : Timestamp) (method : Method) (target : Expr) (arguments : List Expr)
    (missing : Except (Stop CompileError) Literal) :
    (call method target arguments).evaluate time =
      if arguments.length = method.arity then
        target.evaluate time >>= fun subject =>
          method.applyFirst subject ((arguments.head?.map (evaluate time)).getD missing)
      else refuse (.argumentCount method arguments.length) := by
  have few := method.arity_le_one
  rcases arguments with _ | ⟨argument, _ | ⟨second, more⟩⟩
  · by_cases takesNone : method.arity = 0
    · simp only [evaluate, Method.applyFirst, takesNone, if_true, List.length_nil]
    · rw [evaluate, List.length_nil, if_neg takesNone, if_neg (Ne.symm takesNone)]
  · by_cases takesOne : method.arity = 1
    · simp [evaluate, Method.applyFirst, takesOne]
    · rw [evaluate, List.length_singleton, if_neg takesOne, if_neg (Ne.symm takesOne)]
  · have miscounted : (argument :: second :: more).length ≠ method.arity := by
      simp only [List.length_cons]
      omega
    rw [if_neg miscounted]
    rfl

/-- What evaluation would get from outside of an expression. -/
structure Outside where
  /-- The value of an expression that reads the candidate. -/
  read : Expr → Except (Stop CompileError) Literal
  /-- The value of an argument that a call does not have. -/
  missing : Method → Except (Stop CompileError) Literal

mutual

/-- The value of an expression, with values from outside where the expression gives none. -/
def evaluateWith (outside : Outside) (time : Timestamp) : Expr → Except (Stop CompileError) Literal
  | constant value => .ok value
  | now => do return .dateTime (← readClock time)
  | today => do return .dateTime (← readClock time).startOfDay
  | field name => outside.read (field name)
  | candidate => outside.read candidate
  | handlerIs handler => outside.read (handlerIs handler)
  | not operand => do (← operand.evaluateWith outside time).logicalNot
  | negate operand => do (← operand.evaluateWith outside time).arithmeticNegation
  | binary op left right => do
    op.applyTo (← left.evaluateWith outside time) (right.evaluateWith outside time)
  | conditional test ifTrue ifFalse => do
    if ← (← test.evaluateWith outside time).condition then ifTrue.evaluateWith outside time
    else ifFalse.evaluateWith outside time
  | call method target arguments => do
    if arguments.length = method.arity then
      method.applyFirst (← target.evaluateWith outside time)
        (firstWith outside time method arguments)
    else refuse (.argumentCount method arguments.length)

/-- The value of the first of the arguments of a method. -/
def firstWith (outside : Outside) (time : Timestamp) (method : Method) :
    List Expr → Except (Stop CompileError) Literal
  | [] => outside.missing method
  | argument :: _ => argument.evaluateWith outside time

end

variable {outside : Outside} {time : Timestamp}

/-- Evaluation never asks for a missing argument, and for the candidate only where the expression
reads it. -/
theorem evaluateWith_eq_evaluate {expr : Expr}
    (refuses : ∀ part ∈ expr.parts, part.readsCandidate = true →
      outside.read part = refuse (.candidateRead part)) :
    expr.evaluateWith outside time = expr.evaluate time := by
  induction expr using operand_induction with
  | step expr ih =>
      have same {operand : Expr} (operandMem : operand ∈ expr.operands) :
          operand.evaluateWith outside time = operand.evaluate time :=
        ih operand operandMem fun part partMem =>
          refuses part (mem_parts_of_operand operandMem partMem)
      have self := refuses expr expr.mem_parts_self
      cases expr with
      | constant => rfl
      | now | today => rw [evaluateWith, evaluate]
      | field | candidate | handlerIs => exact self rfl
      | not operand | negate operand => rw [evaluateWith, evaluate, same (by simp [operands])]
      | binary op left right =>
          rw [evaluateWith, evaluate_binary, same (by simp [operands]), same (by simp [operands])]
      | conditional test ifTrue ifFalse =>
          rw [evaluateWith, evaluate, same (by simp [operands]), same (by simp [operands]),
            same (by simp [operands])]
      | call method target arguments =>
          have sameFirst : firstWith outside time method arguments =
              (arguments.head?.map (evaluate time)).getD (outside.missing method) := by
            cases arguments with
            | nil => rfl
            | cons argument more => exact same (by simp [operands])
          rw [evaluateWith, evaluate_call _ _ _ _ (outside.missing method), sameFirst,
            same (by simp [operands])]

end Expr

end ContentQuery
