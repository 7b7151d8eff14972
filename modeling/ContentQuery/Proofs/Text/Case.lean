import ContentQuery.Proofs.Clause.Ending
import ContentQuery.Text.Case

/-!
# Letter case of trimmed texts

The lower-case form of a capital sigma depends on the characters around it, but its length does not.
So a text that is lower-cased, even twice, is longer than any of its own parts would be. In
particular blanks at either end survive, and texts that differ in these blanks differ in lower case.
-/

namespace ContentQuery.Text

/-- The sum of the weights of characters. -/
def weigh (weight : Char → ℕ) (chars : List Char) : ℕ :=
  (chars.map weight).sum

variable {weight : Char → ℕ}

theorem weigh_cons (weight : Char → ℕ) (char : Char) (chars : List Char) :
    weigh weight (char :: chars) = weight char + weigh weight chars := by
  simp [weigh]

theorem weigh_append (weight : Char → ℕ) (front back : List Char) :
    weigh weight (front ++ back) = weigh weight front + weigh weight back := by
  simp [weigh]

theorem weigh_one (chars : List Char) : weigh (fun _ => 1) chars = chars.length := by
  simp [weigh]

/-- What the lower-case form of a character weighs. Where both small forms of sigma weigh the same,
it does not matter in which of them a capital sigma results. -/
theorem weigh_lowerAfter (sigmas : weight '\u03C3' = weight '\u03C2') (before chars : List Char) :
    weigh weight (lowerAfter before chars) =
      weigh (fun char => weigh weight (lowerChar char)) chars := by
  induction chars generalizing before with
  | nil => rfl
  | cons char chars ih =>
      have lowered : weigh weight
          (if char = '\u03A3' then
            [if startsCased before && !startsCased chars then '\u03C2' else '\u03C3']
          else lowerChar char) = weigh weight (lowerChar char) := by
        split
        case isFalse => rfl
        case isTrue sigma =>
            have inside : lowerChar char = ['\u03C3'] := by
              rw [sigma]
              decide
            rw [inside]
            split
            · simp [weigh, sigmas]
            · rfl
      rw [lowerAfter, weigh_append, ih, weigh_cons, lowered]

theorem length_lower (text : String) :
    (lower text).toList.length = weigh (fun char => (lowerChar char).length) text.toList := by
  rw [lower, String.toList_ofList, ← weigh_one, weigh_lowerAfter rfl]
  simp only [weigh_one]

theorem length_lower_lower (text : String) :
    (lower (lower text)).toList.length =
      weigh (fun char => weigh (fun low => (lowerChar low).length) (lowerChar char))
        text.toList := by
  have sigmas : (lowerChar '\u03C3').length = (lowerChar '\u03C2').length := by decide
  rw [length_lower, lower, String.toList_ofList, weigh_lowerAfter sigmas]

theorem lowerChar_ne_nil (char : Char) : lowerChar char ≠ [] := by
  rw [lowerChar]
  split
  · simp
  · split <;> simp

/-- A part of characters is lighter than the whole. -/
theorem eq_or_weigh_lt_of_sublist (positive : ∀ char, 0 < weight char) {part whole : List Char}
    (sub : part.Sublist whole) : part = whole ∨ weigh weight part < weigh weight whole := by
  induction sub with
  | slnil => exact .inl rfl
  | @cons part whole char sub ih =>
      right
      have heavy := positive char
      rw [weigh_cons]
      rcases ih with rfl | lighter <;> omega
  | cons_cons char sub ih =>
      rcases ih with rfl | lighter
      · exact .inl rfl
      · right
        rw [weigh_cons, weigh_cons]
        omega

/-- Lower-casing a text twice tells it from each of its parts. -/
theorem lower_lower_inj_of_sublist {part whole : String} (sub : part.toList.Sublist whole.toList)
    (same : lower (lower part) = lower (lower whole)) : part = whole := by
  have sameLength := congrArg (fun text => text.toList.length) same
  simp only [length_lower_lower] at sameLength
  have positive (char : Char) :
      0 < weigh (fun low => (lowerChar low).length) (lowerChar char) := by
    rcases List.exists_cons_of_ne_nil (lowerChar_ne_nil char) with ⟨first, rest, lowered⟩
    have firstPositive := List.length_pos_iff.mpr (lowerChar_ne_nil first)
    rw [lowered, weigh_cons]
    omega
  rcases eq_or_weigh_lt_of_sublist positive sub with sameChars | lighter
  · exact String.toList_injective sameChars
  · exact absurd sameLength (by omega)

/-! ### Trimming -/

theorem trimChars_sublist (chars : List Char) : (trimChars chars).Sublist chars := by
  have front := List.dropWhile_sublist (l := chars) isBlank
  have back := List.dropWhile_sublist (l := (chars.dropWhile isBlank).reverse) isBlank
  rw [trimChars]
  refine List.Sublist.trans ?_ front
  simpa using back.reverse

/-- A text is written in lower case like the text without the blanks at its ends only if it has no
such blanks. -/
theorem lower_lower_trim_eq_iff (text : String) :
    lower (lower text) = lower (lower (trim text)) ↔ trim text = text := by
  constructor
  · intro same
    refine lower_lower_inj_of_sublist ?_ same.symm
    rw [trim, String.toList_ofList]
    exact trimChars_sublist text.toList
  · intro trimmed
    rw [trimmed]

end ContentQuery.Text
