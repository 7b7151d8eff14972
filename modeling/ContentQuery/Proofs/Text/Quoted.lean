import ContentQuery.Proofs.Text.Fragment

/-!
# Reading quoted texts

Escapes can be undone, so the written form of a text determines the text. This remains so behind
characters that are no quotes, unless both texts are bare: an opening quote shows where its text
begins, and a bare text has no such mark.
-/

namespace ContentQuery.Text

/-- The characters without the backslashes that escape them. -/
def unescape : List Char → List Char
  | '\\' :: char :: rest => char :: unescape rest
  | char :: rest => char :: unescape rest
  | [] => []

theorem unescape_cons {char : Char} (notBackslash : char ≠ '\\') (rest : List Char) :
    unescape (char :: rest) = char :: unescape rest := by
  cases rest <;> simp [unescape, notBackslash]

theorem unescape_flatMap_escapeQuoted (chars : List Char) :
    unescape (chars.flatMap escapeQuoted) = chars := by
  induction chars with
  | nil => rfl
  | cons char chars ih =>
      rw [List.flatMap_cons, escapeQuoted]
      split
      case isTrue => exact congrArg (char :: ·) ih
      case isFalse ordinary =>
          rw [not_or] at ordinary
          exact (unescape_cons ordinary.2 _).trans (congrArg (char :: ·) ih)

/-! ### Bare texts -/

/-- The text is written without quotes. -/
def IsBare (text : String) : Prop :=
  ¬(text.toList.isEmpty || needsQuotes text.toList) = true

instance (text : String) : Decidable (IsBare text) :=
  inferInstanceAs (Decidable ¬_)

variable {text text' front front' back : String}

theorem isBare_iff :
    IsBare text ↔ text ≠ "" ∧ text.toList.head? ≠ some '-' ∧ text.toList.any isSpecial = false := by
  simp [IsBare, needsQuotes]

theorem quote_of_isBare (bare : IsBare text) : quote text = text := by
  rw [quote, quoteChars, if_neg bare, String.ofList_toList]

theorem notMem_of_isBare (bare : IsBare text) : '\x27' ∉ text.toList := by
  intro quoteMem
  have special : text.toList.any isSpecial = true :=
    List.any_eq_true.mpr ⟨'\x27', quoteMem, by decide⟩
  rw [(isBare_iff.mp bare).2.2] at special
  cases special

/-- Ordinary characters in front of a bare text make a longer bare text. -/
theorem IsBare.append (ordinary : front.toList.any isSpecial = false)
    (unsigned : front.toList.head? ≠ some '-') (bare : IsBare back) : IsBare (front ++ back) := by
  rcases isBare_iff.mp bare with ⟨notEmpty, backUnsigned, backOrdinary⟩
  refine isBare_iff.mpr ⟨by simp [notEmpty], ?_, ?_⟩
  · rw [String.toList_append, List.head?_append]
    cases opens : front.toList.head? with
    | none => simpa using backUnsigned
    | some first => simpa [opens] using unsigned
  · rw [String.toList_append, List.any_append, ordinary, backOrdinary, Bool.or_self]

theorem toList_quote_of_not_isBare (quoted : ¬IsBare text) :
    (quote text).toList = '\x27' :: (text.toList.flatMap escapeQuoted ++ ['\x27']) := by
  rw [quote, quoteChars, if_pos (not_not.mp quoted), String.toList_ofList, List.cons_append]

/-! ### Written texts behind other characters -/

theorem append_cons_inj_of_notMem {char : Char} {before before' after after' : List Char}
    (notMem : char ∉ before) (notMem' : char ∉ before')
    (same : before ++ char :: after = before' ++ char :: after') :
    before = before' ∧ after = after' := by
  rcases List.append_eq_append_iff.mp same with ⟨gap, longer, rest⟩ | ⟨gap, longer, rest⟩
  · cases gap with
    | nil => simpa [eq_comm] using And.intro longer rest
    | cons first gap =>
        rcases List.cons.inj rest with ⟨rfl, _⟩
        exact absurd (by simp [longer]) notMem'
  · cases gap with
    | nil => simpa [eq_comm] using And.intro longer rest
    | cons first gap =>
        rcases List.cons.inj rest with ⟨rfl, _⟩
        exact absurd (by simp [longer]) notMem

theorem notMem_append_quote (noQuote : '\x27' ∉ front.toList) (bare : IsBare text) :
    '\x27' ∉ (front ++ quote text).toList := by
  rw [quote_of_isBare bare, String.toList_append, List.mem_append, not_or]
  exact ⟨noQuote, notMem_of_isBare bare⟩

theorem mem_append_quote (front : String) (quoted : ¬IsBare text) :
    '\x27' ∈ (front ++ quote text).toList := by
  rw [String.toList_append, toList_quote_of_not_isBare quoted]
  exact List.mem_append_right _ List.mem_cons_self

/-- Behind characters that are no quotes, written texts can be told from these characters, or both
are bare. -/
theorem append_quote_inj (noQuote : '\x27' ∉ front.toList) (noQuote' : '\x27' ∉ front'.toList)
    (same : front ++ quote text = front' ++ quote text') :
    (front = front' ∧ text = text') ∨
      (IsBare text ∧ IsBare text' ∧ front ++ text = front' ++ text') := by
  by_cases bare : IsBare text
  · by_cases bare' : IsBare text'
    · rw [quote_of_isBare bare, quote_of_isBare bare'] at same
      exact .inr ⟨bare, bare', same⟩
    · exact absurd (same ▸ mem_append_quote front' bare') (notMem_append_quote noQuote bare)
  · by_cases bare' : IsBare text'
    · exact absurd (same ▸ mem_append_quote front bare) (notMem_append_quote noQuote' bare')
    · have sameChars := congrArg String.toList same
      rw [String.toList_append, String.toList_append, toList_quote_of_not_isBare bare,
        toList_quote_of_not_isBare bare'] at sameChars
      rcases append_cons_inj_of_notMem noQuote noQuote' sameChars with ⟨sameFront, sameRest⟩
      have sameEscaped := congrArg unescape (List.append_cancel_right sameRest)
      rw [unescape_flatMap_escapeQuoted, unescape_flatMap_escapeQuoted] at sameEscaped
      exact .inl ⟨String.toList_injective sameFront, String.toList_injective sameEscaped⟩

theorem quote_injective : Function.Injective quote := by
  intro text text' same
  have sameBehind : "" ++ quote text = "" ++ quote text' := by rw [same]
  rcases append_quote_inj (by simp) (by simp) sameBehind with ⟨_, same⟩ | ⟨_, _, same⟩
  · exact same
  · simpa using same

end ContentQuery.Text
