import ContentQuery.Proofs.Number.Order

/-!
# Order of literals

Literals have an order within a family: truth values, numbers, texts and times. In an ordered pair
the literals are equal just if they are of one kind and neither comes first. Numbers are the one
family of two kinds, so an integer and a float may come at the same place and differ.
-/

namespace ContentQuery

namespace Literal

/-- The families within which literals have an order. -/
inductive Family where
  | truthValue
  | number
  | text
  | time
deriving DecidableEq, Repr

/-- The family of a literal. A float that is no number has none. -/
def family? : Literal → Option Family
  | bool _ => some .truthValue
  | int _ => some .number
  | float value => if value.isNaN then none else some .number
  | text _ => some .text
  | dateTime _ => some .time
  | null | node _ => none

theorem family?_float (value : Float) :
    (float value).family? = if value.isNaN then none else some .number :=
  rfl

/-- Two literals have an order just if they are of one family. -/
theorem isSome_order_iff {first second : Literal} :
    (first.order second).isSome = true ↔
      ∃ family, first.family? = some family ∧ second.family? = some family := by
  cases first with
  | null | node => simp [order, family?]
  | bool | text | dateTime =>
      cases second with
      | float other =>
          rw [family?_float]
          cases other.isNaN <;> simp [order, family?]
      | _ => simp [order, family?]
  | int value =>
      cases second with
      | float other =>
          rw [order, FloatOrder.isSome_floatOrder, FloatOrder.isNaN_ofInt, family?_float]
          cases other.isNaN <;> simp [family?]
      | _ => simp [order, family?]
  | float value =>
      cases second with
      | int other =>
          rw [order, FloatOrder.isSome_floatOrder, FloatOrder.isNaN_ofInt, family?_float]
          cases value.isNaN <;> simp [family?]
      | float other =>
          rw [order, FloatOrder.isSome_floatOrder, family?_float, family?_float]
          cases value.isNaN <;> cases other.isNaN <;> simp
      | _ =>
          rw [family?_float]
          cases value.isNaN <;> simp [order, family?]

/-- In an ordered pair equality says that the kinds are the same and that neither literal comes
first. -/
theorem beq_iff_order {first second : Literal} {found : Ordering}
    (ordered : first.order second = some found) :
    (first == second) = true ↔ first.kind = second.kind ∧ found = .eq := by
  change first.beq second = true ↔ _
  cases first with
  | null | node => cases ordered
  | bool value =>
      cases second with
      | bool other =>
          cases ordered
          simp [beq, kind]
      | _ => cases ordered
  | int value =>
      cases second with
      | int other =>
          cases ordered
          simp [beq, kind, Int64.toInt_inj]
      | float other => simp [beq, kind]
      | _ => cases ordered
  | float value =>
      cases second with
      | float other =>
          change floatOrder value other = some found at ordered
          simp [beq, kind, FloatOrder.beq_iff_floatOrder, ordered]
      | int other => simp [beq, kind]
      | _ => cases ordered
  | text value =>
      cases second with
      | text other =>
          cases ordered
          simp [beq, kind]
      | _ => cases ordered
  | dateTime value =>
      cases second with
      | dateTime other =>
          cases ordered
          simp [beq, kind, Timestamp.order]
      | _ => cases ordered

end Literal

end ContentQuery
