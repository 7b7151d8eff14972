import ContentQuery.Literal.Basic

/-!
# Order of floats

Two floats have an order unless one of them is no number. Then exactly one of less, equal and
greater holds, where equality is the one of floats, for which the two zeros are the same. An integer
becomes a number, however large it is.
-/

namespace ContentQuery

open Float.Model (Format UnpackedFloat)
open Float.Model.UnpackedFloat (Accuracy Sign)

namespace FloatOrder

theorem compare_swap (left right : UnpackedFloat) :
    right.compare left = (left.compare right).map Ordering.swap := by
  have swapped (exponent exponent' : Int) (mantissa mantissa' : Nat) :
      (compare exponent' exponent).then (compare mantissa' mantissa) =
        ((compare exponent exponent').then (compare mantissa mantissa')).swap := by
    simp only [Ordering.swap_then, Int.compare_swap, Nat.compare_swap]
  rcases left with (_ | _) | _ | _ | ⟨_ | _, _, _, _⟩ <;>
    rcases right with (_ | _) | _ | _ | ⟨_ | _, _, _, _⟩ <;> try rfl
  -- of two negative numbers the one further from zero comes first
  · exact congrArg (fun order => some order.swap) (swapped _ _ _ _)
  · exact congrArg some (swapped _ _ _ _)

theorem isSome_compare (left right : UnpackedFloat) :
    (left.compare right).isSome = (!left.isNaN && !right.isNaN) := by
  rcases left with (_ | _) | _ | _ | ⟨_ | _, _, _, _⟩ <;>
    rcases right with (_ | _) | _ | _ | ⟨_ | _, _, _, _⟩ <;> rfl

theorem beq_iff_compare (left right : Float) :
    (left == right) = true ↔ left.toModel.compare right.toModel = some .eq := by
  change (left.toModel.compare right.toModel == some .eq) = true ↔ _
  exact beq_iff_eq

theorem lt_iff_compare (left right : Float) :
    left < right ↔ left.toModel.compare right.toModel = some .lt := by
  simp [LT.lt, Float.lt, Float.Model.lt, UnpackedFloat.lt, Float.Model.compare]

/-- The three tests agree with one comparison, so no two of them succeed. -/
theorem floatOrder_eq_compare (left right : Float) :
    Literal.floatOrder left right = left.toModel.compare right.toModel := by
  have greater : right < left ↔ left.toModel.compare right.toModel = some .gt := by
    rw [lt_iff_compare, Float.Model.compare, compare_swap]
    simp [Float.Model.compare]
  simp only [Literal.floatOrder, lt_iff_compare left, beq_iff_compare, greater]
  rcases left.toModel.compare right.toModel with _ | _ | _ | _ <;> rfl

theorem beq_iff_floatOrder (left right : Float) :
    (left == right) = true ↔ Literal.floatOrder left right = some .eq := by
  rw [floatOrder_eq_compare, beq_iff_compare]

theorem isSome_floatOrder (left right : Float) :
    (Literal.floatOrder left right).isSome = (!left.isNaN && !right.isNaN) := by
  rw [floatOrder_eq_compare]
  exact isSome_compare left.toModel.unpack right.toModel.unpack

/-! ### Integers -/

theorem isNaN_dite {condition : Prop} [Decidable condition] {yes : condition → UnpackedFloat}
    {no : ¬ condition → UnpackedFloat} (yesIsNumber : ∀ holds, (yes holds).isNaN = false)
    (noIsNumber : ∀ fails, (no fails).isNaN = false) : (dite condition yes no).isNaN = false := by
  split
  · apply yesIsNumber
  · apply noIsNumber

theorem isNaN_unpack {bits : BitVec (Format.numBits .binary64)}
    (isNumber : UnpackedFloat.unpackExponent bits = -1#11 →
      UnpackedFloat.unpackMantissa bits = 0#52) :
    (UnpackedFloat.unpack .binary64 bits).isNaN = false := by
  change (if UnpackedFloat.unpackExponent bits = -1#11 then
    if UnpackedFloat.unpackMantissa bits = 0#52 then _ else _ else _ : UnpackedFloat).isNaN = false
  by_cases isSpecial : UnpackedFloat.unpackExponent bits = -1#11
  · rw [if_pos isSpecial, if_pos (isNumber isSpecial)]
    rfl
  · rw [if_neg isSpecial]
    by_cases isSmall : UnpackedFloat.unpackExponent bits = 0#11
    · rw [if_pos isSmall]
      apply isNaN_dite
      · exact fun _ => rfl
      · exact fun _ => rfl
    · rw [if_neg isSmall]
      rfl

theorem isNaN_unpack_pack {number : UnpackedFloat} (isNumber : number.isNaN = false) :
    (Float.Model.pack number).unpack.isNaN = false := by
  apply isNaN_unpack
  change UnpackedFloat.unpackExponent (UnpackedFloat.pack .binary64 number) = _ →
    UnpackedFloat.unpackMantissa (UnpackedFloat.pack .binary64 number) = _
  fun_cases UnpackedFloat.pack with
  | case1 => cases isNumber
  | case2 sign => simp [UnpackedFloat.packedInfinity]
  | case3 sign => simp [UnpackedFloat.packedZero]
  | case4 sign mantissa exponent positive biased tooLarge => simp [UnpackedFloat.packedInfinity]
  | case5 sign mantissa exponent positive bits biased inRange =>
      rw [UnpackedFloat.unpackExponent_packComponents]
      intro largest
      have same := congrArg BitVec.toNat largest
      change biased % 2 ^ 11 = 2047 at same
      change ¬ 2 ^ 11 ≤ biased + 1 at inRange
      omega
  | case6 sign mantissa exponent positive bits biased inRange =>
      rw [UnpackedFloat.unpackExponent_packComponents]
      intro largest
      cases largest

theorem isNaN_roundWithAccuracy (sign : Sign) (mantissa : Nat) (exponent : Int)
    (accuracy : Accuracy) :
    (UnpackedFloat.roundWithAccuracy .binary64 sign mantissa exponent accuracy).isNaN = false := by
  apply isNaN_dite
  · exact fun _ => rfl
  · exact fun _ => rfl

theorem isNaN_mul_finite {left : UnpackedFloat} (isNumber : left.isNaN = false) (sign : Sign)
    (mantissa : Nat) (exponent : Int) (positive : 0 < mantissa) :
    (UnpackedFloat.mul .binary64 left (.finite sign mantissa exponent positive)).isNaN = false := by
  cases left with
  | notANumber => cases isNumber
  | infinity | zero => rfl
  | finite => apply isNaN_roundWithAccuracy

theorem isNaN_unpackedOfNat (size : Nat) :
    (UnpackedFloat.ofNat .binary64 size).isNaN = false := by
  simp only [UnpackedFloat.ofNat, UnpackedFloat.ofInt, UnpackedFloat.normalize]
  split
  · apply isNaN_roundWithAccuracy
  · rfl
  · apply isNaN_roundWithAccuracy

theorem isNaN_ofNat (size : Nat) : (Float.ofNat size).isNaN = false := by
  change (Float.ofScientific size false 0).isNaN = false
  rw [Float.ofScientific]
  split
  · -- a small integer is exact, and then multiplied by one
    have one : (Float.ofBits 0x3FF0000000000000).toModel.unpack =
        .finite .positive (2 ^ 52) (-52) (by decide) := rfl
    apply isNaN_unpack_pack
    change (UnpackedFloat.mul _ _ (Float.ofBits 0x3FF0000000000000).toModel.unpack).isNaN = false
    rw [one]
    apply isNaN_mul_finite
    exact isNaN_unpack_pack (isNaN_unpackedOfNat _)
  · apply isNaN_unpack_pack
    change (UnpackedFloat.ofScientific .binary64 size 0).isNaN = false
    apply isNaN_dite
    · exact fun _ => rfl
    · intro nonzero
      have small : ¬ (0 : Int) < -(2 ^ 11 + (size.log2 : Int)) := by omega
      rw [if_neg (by decide), if_neg small, if_pos (by decide)]
      apply isNaN_mul_finite rfl

theorem isNaN_ofInt (value : Int) : (Float.ofInt value).isNaN = false := by
  cases value with
  | ofNat size => exact isNaN_ofNat size
  | negSucc size =>
      have isNumber : (Float.ofNat (size + 1)).toModel.unpack.isNaN = false :=
        isNaN_ofNat (size + 1)
      apply isNaN_unpack_pack
      change (Float.ofNat (size + 1)).toModel.unpack.neg.isNaN = false
      generalize (Float.ofNat (size + 1)).toModel.unpack = number at isNumber ⊢
      cases number with
      | notANumber => cases isNumber
      | infinity | zero | finite => rfl

end FloatOrder

end ContentQuery
