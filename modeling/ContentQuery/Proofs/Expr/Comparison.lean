import ContentQuery.Expr.Constant
import ContentQuery.Term.Basic
import ContentQuery.Proofs.Literal.Order
import Mathlib.Logic.ExistsUnique

/-!
# Comparisons of constants

The six comparisons of two constants of one family always have a truth value. They agree with one
another, except for an integer and a float that come at the same place in the order of numbers:
neither is less than the other one, and yet they are not equal.
-/

namespace ContentQuery

namespace RangeOp

/-- The operator that stands for an ordering in an expression. -/
def operator : RangeOp → BinaryOp
  | lt => .lt
  | le => .le
  | gt => .gt
  | ge => .ge

/-- The orderings of a value and a bound for which the value lies on that side of the bound. -/
def admits : RangeOp → Ordering → Bool
  | lt => Ordering.isLT
  | le => Ordering.isLE
  | gt => Ordering.isGT
  | ge => Ordering.isGE

end RangeOp

namespace Expr

variable {time : Timestamp} {left right : Expr} {first second : Literal} {found : Ordering}

/-- The comparison of two constants is evaluated to true. -/
def HoldsOf (time : Timestamp) (left right : Expr) (op : BinaryOp) : Prop :=
  (binary op left right).evaluate time = .ok (.bool true)

section Values

variable (leftValue : left.evaluate time = .ok first)
  (rightValue : right.evaluate time = .ok second) (ordered : first.order second = some found)

include leftValue rightValue

theorem evaluate_eq :
    (binary .eq left right).evaluate time = .ok (.bool (first == second)) := by
  simp only [evaluate, leftValue, rightValue]
  rfl

theorem evaluate_ne :
    (binary .ne left right).evaluate time = .ok (.bool (first != second)) := by
  simp only [evaluate, leftValue, rightValue]
  rfl

include ordered

theorem evaluate_ordering (side : RangeOp) :
    (binary side.operator left right).evaluate time = .ok (.bool (side.admits found)) := by
  have compareWith (holds : Ordering → Bool) :
      first.compareWith holds second = .ok (.bool (holds found)) := by
    simp only [Literal.compareWith, ordered]
  simp only [evaluate, leftValue, rightValue]
  cases side <;> exact compareWith _

theorem holdsOf_eq : HoldsOf time left right .eq ↔ first.kind = second.kind ∧ found = .eq := by
  rw [HoldsOf, evaluate_eq leftValue rightValue, ← Literal.beq_iff_order ordered]
  simp

theorem holdsOf_ne : HoldsOf time left right .ne ↔ ¬(first.kind = second.kind ∧ found = .eq) := by
  rw [HoldsOf, evaluate_ne leftValue rightValue, ← Literal.beq_iff_order ordered]
  simp [bne]

theorem holdsOf_ordering (side : RangeOp) :
    HoldsOf time left right side.operator ↔ side.admits found = true := by
  rw [HoldsOf, evaluate_ordering leftValue rightValue ordered side]
  simp

theorem exists_evaluate_comparison {op : BinaryOp} (compares : op.isComparison = true) :
    ∃ value, (binary op left right).evaluate time = .ok (.bool value) := by
  cases op with
  | eq => exact ⟨_, evaluate_eq leftValue rightValue⟩
  | ne => exact ⟨_, evaluate_ne leftValue rightValue⟩
  | lt => exact ⟨_, evaluate_ordering leftValue rightValue ordered .lt⟩
  | le => exact ⟨_, evaluate_ordering leftValue rightValue ordered .le⟩
  | gt => exact ⟨_, evaluate_ordering leftValue rightValue ordered .gt⟩
  | ge => exact ⟨_, evaluate_ordering leftValue rightValue ordered .ge⟩
  | and | or | add | sub | mul => cases compares

end Values

/-- The comparisons of two constants of one family have truth values. Equality agrees with
the non-strict orderings, difference with the strict ones, and just one of less, equal and
greater holds, each of these if and only if the constants are of one kind or do not come at
the same place. -/
theorem comparisons_agree_iff {family : Literal.Family}
    (leftValue : left.evaluate time = .ok first) (rightValue : right.evaluate time = .ok second)
    (firstFamily : first.family? = some family) (secondFamily : second.family? = some family) :
    let holds := HoldsOf time left right
    let toldApart := first.kind = second.kind ∨ first.order second ≠ some .eq
    (∀ op : BinaryOp, op.isComparison = true →
        ∃ value, (binary op left right).evaluate time = .ok (.bool value)) ∧
      ((holds .eq ↔ holds .le ∧ holds .ge) ↔ toldApart) ∧
      ((holds .ne ↔ holds .lt ∨ holds .gt) ↔ toldApart) ∧
      ((∃! op, op ∈ [BinaryOp.lt, .eq, .gt] ∧ holds op) ↔ toldApart) := by
  intro holds toldApart
  have isOrdered := Literal.isSome_order_iff.mpr ⟨family, firstFamily, secondFamily⟩
  rcases Option.isSome_iff_exists.mp isOrdered with ⟨found, ordered⟩
  have eq : holds .eq ↔ first.kind = second.kind ∧ found = .eq :=
    holdsOf_eq leftValue rightValue ordered
  have ne : holds .ne ↔ ¬(first.kind = second.kind ∧ found = .eq) :=
    holdsOf_ne leftValue rightValue ordered
  have lt : holds .lt ↔ found.isLT = true := holdsOf_ordering leftValue rightValue ordered .lt
  have le : holds .le ↔ found.isLE = true := holdsOf_ordering leftValue rightValue ordered .le
  have gt : holds .gt ↔ found.isGT = true := holdsOf_ordering leftValue rightValue ordered .gt
  have ge : holds .ge ↔ found.isGE = true := holdsOf_ordering leftValue rightValue ordered .ge
  refine ⟨?_, ?_, ?_, ?_⟩
  · intro op compares
    exact exists_evaluate_comparison leftValue rightValue ordered compares
  all_goals simp only [toldApart, ordered, eq, ne, lt, le, gt, ge]
  · cases found <;> simp
  · cases found <;> simp
  · have onlyOne : (∃! op, op ∈ [BinaryOp.lt, .eq, .gt] ∧ holds op) ↔
      (holds .lt ∧ ¬ holds .eq ∧ ¬ holds .gt) ∨ (¬ holds .lt ∧ holds .eq ∧ ¬ holds .gt) ∨
        (¬ holds .lt ∧ ¬ holds .eq ∧ holds .gt) := by
      grind [ExistsUnique]
    rw [onlyOne]
    simp only [eq, lt, gt]
    cases found <;> simp

/-- The integer two and the float two come at the same place, so each law fails of them. One more
than two and the float two and a half do not, so each law holds of them. -/
theorem comparisons_agree_iff_two :
    let whole : Expr := .constant (.int 2)
    let float : Expr := .constant (.float 2.0)
    let sum : Expr := .binary .add whole (.constant (.int 1))
    let half : Expr := .constant (.float 2.5)
    let holds (left right : Expr) := HoldsOf .epoch left right
    (Literal.int 2).family? = some .number ∧ (Literal.float 2.0).family? = some .number ∧
      (¬ holds whole float .eq ∧ holds whole float .le ∧ holds whole float .ge) ∧
      ¬ (holds whole float .eq ↔ holds whole float .le ∧ holds whole float .ge) ∧
      ¬ (holds whole float .ne ↔ holds whole float .lt ∨ holds whole float .gt) ∧
      ¬ (∃! op, op ∈ [BinaryOp.lt, .eq, .gt] ∧ holds whole float op) ∧
      (holds sum half .ne ↔ holds sum half .lt ∨ holds sum half .gt) ∧
      (∃! op, op ∈ [BinaryOp.lt, .eq, .gt] ∧ holds sum half op) := by
  intro whole float sum half holds
  have same :=
    @comparisons_agree_iff .epoch whole float (.int 2) (.float 2.0) .number rfl rfl rfl rfl
  have other := @comparisons_agree_iff .epoch sum half (.int 3) (.float 2.5) .number rfl rfl rfl rfl
  have notApart : ¬ ((Literal.int 2).kind = (Literal.float 2.0).kind ∨
      (Literal.int 2).order (.float 2.0) ≠ some .eq) := by decide
  have apart : (Literal.int 3).kind = (Literal.float 2.5).kind ∨
      (Literal.int 3).order (.float 2.5) ≠ some .eq := by decide
  have unequal : ¬ holds whole float .eq := by
    intro equal
    have value : (Expr.binary .eq whole float).evaluate .epoch = .ok (.bool false) := rfl
    cases value.symm.trans equal
  refine ⟨rfl, rfl, ⟨unequal, rfl, rfl⟩, ?_, ?_, ?_, ?_, ?_⟩
  · exact fun law => notApart (same.2.1.mp law)
  · exact fun law => notApart (same.2.2.1.mp law)
  · exact fun law => notApart (same.2.2.2.mp law)
  · exact other.2.2.1.mpr apart
  · exact other.2.2.2.mpr apart

end Expr

end ContentQuery
