import Mathlib.Data.String.Basic
import Mathlib.Tactic.Linarith

/-!
# Texts in the order of numbers

Texts of one length compare like the numbers that their values stand for, part by part from the
left. This file says what it takes to put such texts side by side.
-/

namespace ContentQuery.Text

theorem append_lt_append_iff {front front' : String}
    (sameLength : front.toList.length = front'.toList.length) (back back' : String) :
    front ++ back < front' ++ back' ↔ front < front' ∨ front = front' ∧ back < back' := by
  simp only [String.lt_iff_toList_lt, String.toList_append, ← String.toList_inj]
  generalize front.toList = chars at sameLength ⊢
  generalize front'.toList = chars' at sameLength ⊢
  induction chars generalizing chars' with
  | nil => simp_all [eq_comm]
  | cons char chars ih =>
      cases chars' with
      | nil => simp at sameLength
      | cons char' chars' =>
          have shorter : chars.length = chars'.length := by simpa using sameLength
          simp only [List.cons_append, List.cons_lt_cons_iff, ih _ shorter, List.cons.injEq]
          tauto

theorem mul_add_lt_mul_add_iff {front front' back back' low bound : Int}
    (backMem : low ≤ back ∧ back < low + bound) (backMem' : low ≤ back' ∧ back' < low + bound) :
    bound * front + back < bound * front' + back' ↔
      front < front' ∨ front = front' ∧ back < back' := by
  rcases lt_trichotomy front front' with less | rfl | greater
  · have apart : bound * (front + 1) ≤ bound * front' := mul_le_mul_of_nonneg_left less (by omega)
    simp only [less, true_or, iff_true]
    linarith
  · simp
  · have apart : bound * (front' + 1) ≤ bound * front :=
      mul_le_mul_of_nonneg_left greater (by omega)
    have notBefore : ¬(front < front' ∨ front = front' ∧ back < back') := by omega
    simp only [notBefore, iff_false, not_lt]
    linarith

/-- The texts of some values have one length and compare like the numbers of the values. -/
structure OrderedBy {Value : Type} (values : Value → Prop) (write : Value → String)
    (rank : Value → Int) : Prop where
  length_eq {left right : Value} : values left → values right →
    (write left).toList.length = (write right).toList.length
  lt_iff {left right : Value} : values left → values right →
    (write left < write right ↔ rank left < rank right)

namespace OrderedBy

variable {Value Other : Type} {values : Value → Prop} {write write' : Value → String}
  {rank rank' : Value → Int} {left right : Value}

theorem le_iff (ordered : OrderedBy values write rank) (leftMem : values left)
    (rightMem : values right) : write left ≤ write right ↔ rank left ≤ rank right := by
  rw [← not_lt, ordered.lt_iff rightMem leftMem, not_lt]

theorem eq_iff (ordered : OrderedBy values write rank) (leftMem : values left)
    (rightMem : values right) : write left = write right ↔ rank left = rank right := by
  rw [le_antisymm_iff, ordered.le_iff leftMem rightMem, ordered.le_iff rightMem leftMem,
    ← le_antisymm_iff]

theorem congr (ordered : OrderedBy values write rank)
    (sameText : ∀ value, values value → write' value = write value)
    (sameOrder : ∀ left right, values left → values right →
      (rank left < rank right ↔ rank' left < rank' right)) :
    OrderedBy values write' rank' where
  length_eq leftMem rightMem := by
    rw [sameText _ leftMem, sameText _ rightMem, ordered.length_eq leftMem rightMem]
  lt_iff leftMem rightMem := by
    rw [sameText _ leftMem, sameText _ rightMem, ordered.lt_iff leftMem rightMem,
      sameOrder _ _ leftMem rightMem]

theorem comp (ordered : OrderedBy values write rank) {others : Other → Prop} (part : Other → Value)
    (partMem : ∀ other, others other → values (part other)) :
    OrderedBy others (fun other => write (part other)) (fun other => rank (part other)) where
  length_eq leftMem rightMem := ordered.length_eq (partMem _ leftMem) (partMem _ rightMem)
  lt_iff leftMem rightMem := ordered.lt_iff (partMem _ leftMem) (partMem _ rightMem)

/-- Of two parts with a fixed text between them, the first one decides unless it is the same. -/
theorem append (first : OrderedBy values write rank) (between : String)
    (second : OrderedBy values write' rank') {low bound : Int}
    (inBounds : ∀ value, values value → low ≤ rank' value ∧ rank' value < low + bound) :
    OrderedBy values (fun value => write value ++ between ++ write' value)
      (fun value => bound * rank value + rank' value) where
  length_eq leftMem rightMem := by
    simp only [String.toList_append, List.length_append]
    rw [first.length_eq leftMem rightMem, second.length_eq leftMem rightMem]
  lt_iff leftMem rightMem := by
    have betweenLength : ∀ {left right}, values left → values right →
        (write left ++ between).toList.length = (write right ++ between).toList.length := by
      intro left right leftMem rightMem
      simp only [String.toList_append, List.length_append]
      rw [first.length_eq leftMem rightMem]
    rw [append_lt_append_iff (betweenLength leftMem rightMem),
      append_lt_append_iff (first.length_eq leftMem rightMem), String.append_left_inj,
      first.lt_iff leftMem rightMem, first.eq_iff leftMem rightMem, second.lt_iff leftMem rightMem,
      mul_add_lt_mul_add_iff (inBounds _ leftMem) (inBounds _ rightMem)]
    simp

/-- A fixed text on either side changes nothing. -/
theorem between (ordered : OrderedBy values write rank) (before after : String) :
    OrderedBy values (fun value => before ++ write value ++ after) rank where
  length_eq leftMem rightMem := by
    simp only [String.toList_append, List.length_append]
    rw [ordered.length_eq leftMem rightMem]
  lt_iff leftMem rightMem := by
    have sameLength := ordered.length_eq leftMem rightMem
    rw [append_lt_append_iff (by simp [sameLength]), append_lt_append_iff rfl,
      ordered.lt_iff leftMem rightMem]
    simp

end OrderedBy

end ContentQuery.Text
