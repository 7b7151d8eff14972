import ContentQuery.Expr.Constant

/-!
# Parts of expressions

What an expression names is found among its parts: fields, handlers, and the time of compilation. An
expression is constant if no part of it reads the candidate, and a constant expression that does not
name the time has the same value at all times.
-/

namespace ContentQuery

namespace Expr

/-- Induction on expressions. A call may assume the claim for each of its arguments. -/
@[elab_as_elim, induction_eliminator]
theorem call_induction {motive : Expr → Prop}
    (constant : ∀ value, motive (.constant value)) (field : ∀ name, motive (.field name))
    (candidate : motive .candidate) (now : motive .now) (today : motive .today)
    (not : ∀ operand, motive operand → motive (.not operand))
    (negate : ∀ operand, motive operand → motive (.negate operand))
    (binary : ∀ op left right, motive left → motive right → motive (.binary op left right))
    (conditional : ∀ test ifTrue ifFalse, motive test → motive ifTrue → motive ifFalse →
      motive (.conditional test ifTrue ifFalse))
    (call : ∀ method target arguments, motive target → (∀ argument ∈ arguments, motive argument) →
      motive (.call method target arguments))
    (handlerIs : ∀ handler, motive (.handlerIs handler)) (expr : Expr) : motive expr := by
  refine @Expr.rec motive (fun arguments => ∀ argument ∈ arguments, motive argument) constant field
    candidate now today not negate binary conditional call handlerIs ?_ ?_ expr
  · intro argument argumentMem
    simp at argumentMem
  · intro head tail headHolds tailHolds argument argumentMem
    rcases List.mem_cons.mp argumentMem with rfl | argumentMem
    · exact headHolds
    · exact tailHolds argument argumentMem

mutual

/-- The expression and all expressions inside it. -/
def parts : Expr → List Expr
  | not operand => not operand :: operand.parts
  | negate operand => negate operand :: operand.parts
  | binary op left right => binary op left right :: (left.parts ++ right.parts)
  | conditional test ifTrue ifFalse =>
    conditional test ifTrue ifFalse :: (test.parts ++ (ifTrue.parts ++ ifFalse.parts))
  | call method target arguments =>
    call method target arguments :: (target.parts ++ partsOfAll arguments)
  | expr => [expr]

/-- The parts of several expressions. -/
def partsOfAll : List Expr → List Expr
  | [] => []
  | expr :: exprs => expr.parts ++ partsOfAll exprs

end

/-- The expressions that stand directly inside an expression. -/
def operands : Expr → List Expr
  | not operand | negate operand => [operand]
  | binary _ left right => [left, right]
  | conditional test ifTrue ifFalse => [test, ifTrue, ifFalse]
  | call _ target arguments => target :: arguments
  | _ => []

theorem partsOfAll_eq_flatMap (exprs : List Expr) : partsOfAll exprs = exprs.flatMap parts := by
  induction exprs with
  | nil => rfl
  | cons expr exprs ih => rw [partsOfAll, ih, List.flatMap_cons]

theorem parts_eq_cons (expr : Expr) : expr.parts = expr :: expr.operands.flatMap parts := by
  cases expr <;> simp [parts, operands, partsOfAll_eq_flatMap]

theorem mem_parts_self (expr : Expr) : expr ∈ expr.parts := by
  rw [parts_eq_cons]
  exact List.mem_cons_self

theorem mem_parts_of_operand {part operand expr : Expr} (operandMem : operand ∈ expr.operands)
    (partMem : part ∈ operand.parts) : part ∈ expr.parts := by
  rw [parts_eq_cons]
  exact List.mem_cons_of_mem _ (List.mem_flatMap_of_mem operandMem partMem)

/-- The expression names the time of compilation. -/
def NamesTime (expr : Expr) : Prop :=
  .now ∈ expr.parts ∨ .today ∈ expr.parts

theorem NamesTime.of_operand {operand expr : Expr} (operandMem : operand ∈ expr.operands)
    (named : operand.NamesTime) : expr.NamesTime :=
  named.imp (mem_parts_of_operand operandMem) (mem_parts_of_operand operandMem)

/-- Induction on expressions, in which the claim may be assumed for all operands alike. -/
@[elab_as_elim]
theorem operand_induction {motive : Expr → Prop}
    (step : ∀ expr : Expr, (∀ operand ∈ expr.operands, motive operand) → motive expr)
    (expr : Expr) : motive expr := by
  induction expr with
  | call method target arguments ihTarget ihArguments =>
      exact step _ (List.forall_mem_cons.mpr ⟨ihTarget, ihArguments⟩)
  | _ =>
      apply step
      simp_all [operands]

/-- The expression by itself reads the candidate, whatever stands inside it. -/
def readsCandidate : Expr → Bool
  | field _ | candidate | handlerIs _ => true
  | _ => false

theorem areConstant_eq_all (exprs : List Expr) : areConstant exprs = exprs.all isConstant := by
  induction exprs with
  | nil => rfl
  | cons expr exprs ih => rw [areConstant, ih, List.all_cons]

theorem isConstant_eq_and (expr : Expr) :
    expr.isConstant = (!expr.readsCandidate && expr.operands.all isConstant) := by
  cases expr <;> simp [isConstant, readsCandidate, operands, areConstant_eq_all, Bool.and_assoc]

/-- An expression is constant if no part of it reads the candidate. -/
theorem isConstant_iff {expr : Expr} :
    expr.isConstant = true ↔ ∀ part ∈ expr.parts, part.readsCandidate = false := by
  induction expr using operand_induction with
  | step expr ih =>
      rw [isConstant_eq_and, parts_eq_cons, Bool.and_eq_true, Bool.not_eq_true', List.all_eq_true,
        List.forall_mem_cons, List.forall_mem_flatMap]
      exact and_congr_right fun _ => forall₂_congr ih

/-- The value of a constant expression depends on the clock only where the expression names the
time, and then on what is read from it alone. -/
theorem evaluate_eq_of_readClock {first second : Timestamp} (expr : Expr)
    (sameReading : expr.NamesTime → readClock first = readClock second) :
    expr.evaluate first = expr.evaluate second := by
  induction expr using operand_induction with
  | step expr ih =>
      have same : ∀ operand ∈ expr.operands, operand.evaluate first = operand.evaluate second :=
        fun operand operandMem => ih operand operandMem (sameReading ∘ .of_operand operandMem)
      cases expr with
      | constant | field | candidate | handlerIs => rfl
      | now => rw [evaluate, evaluate, sameReading (.inl (mem_parts_self .now))]
      | today => rw [evaluate, evaluate, sameReading (.inr (mem_parts_self .today))]
      | not operand | negate operand =>
          simp only [evaluate, same operand (by simp [operands])]
      | binary op left right =>
          simp only [evaluate, same left (by simp [operands]), same right (by simp [operands])]
      | conditional test ifTrue ifFalse =>
          simp only [evaluate, same test (by simp [operands]), same ifTrue (by simp [operands]),
            same ifFalse (by simp [operands])]
      | call method target arguments =>
          have sameTarget := same target (by simp [operands])
          rcases arguments with _ | ⟨argument, _ | _⟩
          · simp only [evaluate, sameTarget]
          · simp only [evaluate, sameTarget, same argument (by simp [operands])]
          · rfl

/-- The test is evaluated first and then the chosen branch alone. -/
theorem evaluate_conditional_eq_bind (time : Timestamp) (test ifTrue ifFalse : Expr) :
    (conditional test ifTrue ifFalse).evaluate time =
      test.evaluateCondition time >>= fun choice =>
        (if choice then ifTrue else ifFalse).evaluate time := by
  rw [evaluate, evaluateCondition, bind_assoc]
  congr 1
  funext value
  congr 1
  funext choice
  cases choice <;> rfl

end Expr

end ContentQuery
