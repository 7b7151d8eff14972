import ContentQuery.Predicate.OfExpr
import ContentQuery.Proofs.Expr.Evaluation
import ContentQuery.Proofs.Outcome

/-!
# Failures of expressions

Which errors the parts of an expression can cause: an expression that is evaluated has invalid
constants, or parts that have no value among the constants, and a rule for predicates can also meet
fields and handlers that nobody knows.
-/

namespace ContentQuery

namespace Stop

/-- How operations on constants can fail. -/
def IsInvalidConstant : Stop CompileError → Prop
  | refused (.invalidConstant _) => True
  | _ => False

/-- How the rules for expressions can fail, apart from fields that cannot be resolved. -/
def IsOfRule : Stop CompileError → Prop
  | refused (.unknownField _) | refused (.invalidScope _) | refused .constantPredicate => False
  | _ => True

theorem IsInvalidConstant.isOfRule {stop : Stop CompileError} (invalid : stop.IsInvalidConstant) :
    stop.IsOfRule := by
  rcases stop with error | _
  · cases error <;> simp_all [IsInvalidConstant, IsOfRule]
  · trivial

end Stop

open Stop (IsInvalidConstant IsOfRule)

namespace Literal

theorem failsWithin_condition (value : Literal) :
    FailsWithin IsInvalidConstant value.condition := by
  cases value with
  | bool value => exact .ok value
  | _ => exact .error trivial

theorem failsWithin_logicalNot (value : Literal) :
    FailsWithin IsInvalidConstant value.logicalNot := by
  cases value with
  | bool value => exact .ok _
  | _ => exact .error trivial

theorem failsWithin_arithmeticNegation (value : Literal) :
    FailsWithin IsInvalidConstant value.arithmeticNegation := by
  cases value with
  | int value =>
      simp only [arithmeticNegation]
      split
      · exact .ok _
      · exact .error trivial
  | float value => exact .ok _
  | _ => exact .error trivial

theorem failsWithin_exactInt (value : Int) : FailsWithin IsInvalidConstant (exactInt value) := by
  simp only [exactInt]
  split
  · exact .ok _
  · exact .error trivial

theorem failsWithin_finiteFloat (value : Float) :
    FailsWithin IsInvalidConstant (finiteFloat value) := by
  simp only [finiteFloat]
  split
  · exact .ok _
  · exact .error trivial

theorem failsWithin_arithmetic (op : ArithmeticOp) (left right : Literal) :
    FailsWithin IsInvalidConstant (op.apply left right) := by
  simp only [ArithmeticOp.apply]
  split
  · exact failsWithin_exactInt _
  · exact failsWithin_finiteFloat _
  · exact failsWithin_finiteFloat _
  · exact failsWithin_finiteFloat _
  · split
    · exact .ok _
    · exact .error trivial

theorem failsWithin_compareWith (accepts : Ordering → Bool) (left right : Literal) :
    FailsWithin IsInvalidConstant (compareWith accepts left right) := by
  simp only [compareWith]
  split
  · exact .ok _
  · exact .error trivial

theorem failsWithin_shiftLength (unit : TimeUnit) (amount : Literal) :
    FailsWithin IsInvalidConstant (shiftLength unit amount) := by
  simp only [shiftLength]
  split
  · split
    · exact .ok _
    · exact .error trivial
  · split
    · exact .ok _
    · exact .error trivial
  · exact .error trivial

theorem failsWithin_shift (unit : TimeUnit) (start amount : Literal) :
    FailsWithin IsInvalidConstant (shift unit start amount) := by
  cases start with
  | dateTime timestamp =>
      apply (failsWithin_shiftLength unit amount).bind
      intro nanos
      split
      · exact .ok _
      · exact .error trivial
  | _ => exact .error trivial

theorem failsWithin_matchTest (method : Method) (accepts : List Char → List Char → Bool)
    (subject argument : Literal) :
    FailsWithin IsInvalidConstant (matchTest method accepts subject argument) := by
  simp only [matchTest]
  split
  · exact .ok _
  · exact .error trivial

theorem failsWithin_mapText (method : Method) (convert : String → String) (value : Literal) :
    FailsWithin IsInvalidConstant (value.mapText method convert) := by
  cases value with
  | text value => exact .ok _
  | null => exact .ok _
  | _ => exact .error trivial

end Literal

namespace Method

/-- Methods that stand for a property of the candidate. -/
def isOfCandidate : Method → Bool
  | type | typeIs | inFolder | inTree => true
  | _ => false

/-- A method fails for its operands or because it stands for a property of the candidate. -/
theorem failsWithin_applyFirst {kind : Stop CompileError → Prop} (method : Method)
    (subject : Literal) {argument : Except (Stop CompileError) Literal}
    (invalid : ∀ stop, IsInvalidConstant stop → kind stop)
    (ofCandidate : method.isOfCandidate = true → kind (.refused (.callOnConstant method)))
    (given : FailsWithin kind argument) :
    FailsWithin kind (method.applyFirst subject argument) := by
  cases method with
  | addDays | addHours | addMinutes | addSeconds =>
      exact given.bind fun amount => (Literal.failsWithin_shift _ subject amount).weaken invalid
  | startsWith | endsWith | contains =>
      exact given.bind fun wanted =>
        (Literal.failsWithin_matchTest _ _ subject wanted).weaken invalid
  | toLower | toUpper => exact (subject.failsWithin_mapText _ _).weaken invalid
  | type | typeIs | inFolder | inTree => exact .error (ofCandidate rfl)

end Method

theorem BinaryOp.failsWithin_applyTo {kind : Stop CompileError → Prop} (op : BinaryOp)
    (first : Literal) {second : Except (Stop CompileError) Literal}
    (invalid : ∀ stop, IsInvalidConstant stop → kind stop)
    (given : FailsWithin kind second) : FailsWithin kind (op.applyTo first second) := by
  have secondCondition : FailsWithin kind do return Literal.bool (← (← second).condition) := by
    apply given.bind
    intro value
    exact (value.failsWithin_condition.weaken invalid).bind fun holds => .ok _
  cases op with
  | and =>
      apply (first.failsWithin_condition.weaken invalid).bind
      intro holds
      cases holds with
      | true => exact secondCondition
      | false => exact .ok _
  | or =>
      apply (first.failsWithin_condition.weaken invalid).bind
      intro holds
      cases holds with
      | true => exact .ok _
      | false => exact secondCondition
  | eq | ne => exact given.bind fun value => .ok _
  | lt | le | gt | ge =>
      exact given.bind fun value => (Literal.failsWithin_compareWith _ first value).weaken invalid
  | add | sub | mul =>
      exact given.bind fun value => (Literal.failsWithin_arithmetic _ first value).weaken invalid

namespace Expr

/-- How evaluation can fail when the clock shows a time, each with the part of the expression that
it comes from. -/
inductive CanCause (time : Timestamp) (expr : Expr) : Stop CompileError → Prop
  | invalidConstant (reason : String) : CanCause time expr (.refused (.invalidConstant reason))
  | argumentCount {method : Method} {target : Expr} {arguments : List Expr}
    (callMem : call method target arguments ∈ expr.parts)
    (miscounted : arguments.length ≠ method.arity) :
    CanCause time expr (.refused (.argumentCount method arguments.length))
  | callOnConstant {method : Method} {target : Expr} {arguments : List Expr}
    (callMem : call method target arguments ∈ expr.parts)
    (counted : arguments.length = method.arity) (ofCandidate : method.isOfCandidate = true) :
    CanCause time expr (.refused (.callOnConstant method))
  | candidateRead {part : Expr} (partMem : part ∈ expr.parts)
    (reads : part.readsCandidate = true) : CanCause time expr (.refused (.candidateRead part))
  /-- The time of the clock has no date in UTC. -/
  | panicked (named : expr.NamesTime) (noDate : time.toUtc? = none) : CanCause time expr .panicked

namespace CanCause

variable {time : Timestamp} {expr operand : Expr} {stop : Stop CompileError}

theorem of_isInvalidConstant (expr : Expr) (invalid : stop.IsInvalidConstant) :
    expr.CanCause time stop := by
  rcases stop with error | _
  · cases error with
    | invalidConstant reason => exact .invalidConstant reason
    | _ => exact invalid.elim
  · exact invalid.elim

theorem of_operand (operandMem : operand ∈ expr.operands) (causes : operand.CanCause time stop) :
    expr.CanCause time stop := by
  cases causes with
  | invalidConstant reason => exact .invalidConstant reason
  | argumentCount callMem miscounted =>
      exact .argumentCount (mem_parts_of_operand operandMem callMem) miscounted
  | callOnConstant callMem counted ofCandidate =>
      exact .callOnConstant (mem_parts_of_operand operandMem callMem) counted ofCandidate
  | candidateRead partMem reads =>
      exact .candidateRead (mem_parts_of_operand operandMem partMem) reads
  | panicked named noDate => exact .panicked (named.of_operand operandMem) noDate

theorem isOfRule (causes : expr.CanCause time stop) : stop.IsOfRule := by
  cases causes <;> exact trivial

end CanCause

theorem failsWithin_readClock {time : Timestamp} {expr : Expr} (named : expr.NamesTime) :
    FailsWithin (expr.CanCause time) (readClock time) := by
  rw [readClock]
  cases date : time.toUtc? with
  | some utc => exact .ok utc
  | none => exact .error (.panicked named date)

/-- Evaluation fails only for what the parts of an expression cause. -/
theorem failsWithin_evaluate (time : Timestamp) (expr : Expr) :
    FailsWithin (expr.CanCause time) (expr.evaluate time) := by
  induction expr using operand_induction with
  | step expr ih =>
      have within {operand : Expr} (operandMem : operand ∈ expr.operands) :
          FailsWithin (expr.CanCause time) (operand.evaluate time) :=
        (ih operand operandMem).weaken fun _ => .of_operand operandMem
      have invalid (stop : Stop CompileError) : stop.IsInvalidConstant → expr.CanCause time stop :=
        .of_isInvalidConstant expr
      have self := expr.mem_parts_self
      cases expr with
      | constant value => exact .ok value
      | now => exact (failsWithin_readClock (.inl self)).bind fun utc => .ok _
      | today => exact (failsWithin_readClock (.inr self)).bind fun utc => .ok _
      | field | candidate | handlerIs => exact .error (.candidateRead self rfl)
      | not operand =>
          apply (within (by simp [operands])).bind
          intro value
          exact value.failsWithin_logicalNot.weaken invalid
      | negate operand =>
          apply (within (by simp [operands])).bind
          intro value
          exact value.failsWithin_arithmeticNegation.weaken invalid
      | binary op left right =>
          rw [evaluate_binary]
          apply (within (by simp [operands])).bind
          intro first
          exact op.failsWithin_applyTo first invalid (within (by simp [operands]))
      | conditional test ifTrue ifFalse =>
          apply (within (by simp [operands])).bind
          intro value
          apply (value.failsWithin_condition.weaken invalid).bind
          intro holds
          cases holds with
          | true => exact within (by simp [operands])
          | false => exact within (by simp [operands])
      | call method target arguments =>
          rw [evaluate_call time method target arguments (.ok .null)]
          split
          case isTrue counted =>
              apply (within (by simp [operands])).bind
              intro subject
              apply method.failsWithin_applyFirst subject invalid (.callOnConstant self counted)
              cases arguments with
              | nil => exact .ok Literal.null
              | cons argument more => exact within (by simp [operands])
          case isFalse miscounted => exact .error (.argumentCount self miscounted)

end Expr

namespace Context

variable (context : Context)

theorem failsWithin_termLiteral (field : String) (value : Literal) :
    FailsWithin IsOfRule (context.termLiteral field value) := by
  cases value with
  | float value =>
      simp only [termLiteral]
      split
      · exact .ok _
      · exact .error trivial
  | _ => exact .ok _

theorem failsWithin_nodeId (field : String) (value : Literal) :
    FailsWithin IsOfRule (value.nodeId field) := by
  cases value with
  | node value => exact .ok _
  | int value =>
      simp only [Literal.nodeId]
      split
      · exact .ok _
      · exact .error trivial
  | _ => exact .error trivial

theorem failsWithin_equalityTerm (field : String) (info : FieldInfo) (value : Literal) :
    FailsWithin IsOfRule (context.equalityTerm field info value) := by
  simp only [equalityTerm]
  split
  · exact (failsWithin_nodeId field value).bind fun target => .ok _
  · exact (context.failsWithin_termLiteral field value).bind fun literal => .ok _

theorem failsWithin_equality (field : String) (info : FieldInfo) (negated : Bool)
    (value : Literal) : FailsWithin IsOfRule (context.equality field info negated value) := by
  simp only [equality]
  split
  · exact .ok _
  · exact .ok _
  · exact .ok _
  · exact .error trivial
  · exact (context.failsWithin_equalityTerm field info _).bind fun term => .ok _

theorem failsWithin_ordering (field : String) (info : FieldInfo) (op : RangeOp) (bound : Literal) :
    FailsWithin IsOfRule (context.ordering field info op bound) := by
  simp only [ordering]
  split
  · exact .error trivial
  · exact (context.failsWithin_termLiteral field bound).bind fun literal => .ok _

theorem failsWithin_ofOperands (comparison : Comparison) (left right : Expr) :
    FailsWithin IsOfRule (FieldComparison.ofOperands comparison left right) := by
  simp only [FieldComparison.ofOperands]
  split
  · exact .error trivial
  · split
    · exact .ok _
    · exact .error trivial
  · split
    · exact .ok _
    · exact .error trivial

theorem failsWithin_requireCandidate (method : Method) (target : Expr) :
    FailsWithin IsOfRule (requireCandidate method target) := by
  cases target with
  | candidate => exact .ok ()
  | _ => exact .error trivial

theorem failsWithin_pattern (info : FieldInfo) (method : Method) (shape : WildcardShape)
    (value : Literal) : FailsWithin IsOfRule (pattern info method shape value) := by
  simp only [pattern]
  split
  · exact .error trivial
  · exact .ok _

theorem failsWithin_placePath (method : Method) (value : Literal) :
    FailsWithin IsOfRule (placePath method value) := by
  cases value with
  | text path => exact .ok path
  | node node => exact .ok node.path
  | _ => exact .error trivial

theorem failsWithin_handlerTest (handler : Handler) :
    FailsWithin IsOfRule (context.handlerTest handler) := by
  simp only [handlerTest]
  split
  · exact .ok _
  · exact .error trivial

end Context

end ContentQuery
