import ContentQuery.Proofs.Clause.Text

/-!
# Ends of texts

The text of a legible clause opens with a character that is not blank. It ends in a blank only if
the last term outside parentheses is a pattern `*text` over a text that does: the blank is escaped,
but trimming takes it all the same.

The main statement is that trimming leaves the text of every other canonical clause as it is.
-/

namespace ContentQuery

namespace Text

/-- The last character of the text is blank. -/
def endsBlank (text : String) : Bool :=
  text.toList.getLast?.any isBlank

theorem endsBlank_append {front back : String} (notEmpty : back ≠ "") :
    endsBlank (front ++ back) = endsBlank back := by
  rcases List.eq_nil_or_concat back.toList with empty | ⟨rest, last, whole⟩
  · exact absurd (String.toList_eq_nil_iff.mp empty) notEmpty
  · simp [endsBlank, whole, List.getLast?_append]

theorem endsBlank_append_of_eq_false {front : String} (closed : endsBlank front = false)
    (back : String) : endsBlank (front ++ back) = endsBlank back := by
  by_cases empty : back = ""
  · subst back
    rw [String.append_empty, closed]
    rfl
  · exact endsBlank_append empty

theorem endsBlank_eq_false {text : String} (solid : ∀ char ∈ text.toList, isBlank char = false) :
    endsBlank text = false := by
  rw [endsBlank, Option.any_eq_false]
  intro last ends
  exact solid last (List.mem_of_getLast? ends)

theorem endsBlank_of_isPlain {text : String} (plain : IsPlain text) : endsBlank text = false :=
  endsBlank_eq_false fun char charMem => isBlank_eq_false_of_isStructural (plain char charMem)

theorem endsBlank_quote (text : String) : endsBlank (quote text) = false := by
  rw [quote, quoteChars]
  split
  · simp only [endsBlank, String.toList_ofList, List.getLast?_concat]
    decide
  · next bare =>
      apply endsBlank_eq_false
      intro char charMem
      rw [String.toList_ofList] at charMem
      have ordinary := FragmentState.isSpecial_eq_false_of_bare bare charMem
      rw [isSpecial, Bool.or_eq_false_iff] at ordinary
      exact ordinary.1

theorem getLast?_flatMap_escapeSpecial (chars : List Char) :
    (chars.flatMap escapeSpecial).getLast? = chars.getLast? := by
  induction chars using List.reverseRecOn with
  | nil => rfl
  | append_singleton front last _ =>
      rw [List.flatMap_append, List.getLast?_append, List.getLast?_concat, List.flatMap_singleton,
        escapeSpecial]
      split <;> rfl

/-- Escapes stand in front of what they escape, so a pattern ends as its text does. -/
theorem endsBlank_wildcardBody (text : String) :
    endsBlank (wildcardBody text) = endsBlank text := by
  rw [wildcardBody, endsBlank, endsBlank, String.toList_ofList]
  cases text.toList with
  | nil => rfl
  | cons first rest =>
      -- both escapes of the first character end in the character itself
      have escaped :
          (if first = '-' then ['\\', first] else escapeSpecial first).getLast? = some first := by
        rw [escapeSpecial]
        split
        · rfl
        · split <;> rfl
      rw [wildcardChars, List.getLast?_append, getLast?_flatMap_escapeSpecial, escaped,
        List.getLast?_cons]
      cases rest.getLast? <;> rfl

section

variable {text : String} (opens : ∃ char ∈ text.toList.head?, isBlank char = false)

include opens

/-- Trimming leaves a text with a character in front that is not blank, if none is at the end. -/
theorem trim_eq_self_iff : trim text = text ↔ endsBlank text = false := by
  rcases opens with ⟨char, opens, notBlank⟩
  rcases List.head?_eq_some_iff.mp opens with ⟨rest, whole⟩
  rw [← String.toList_inj, trim, String.toList_ofList, endsBlank, whole, trimChars_cons notBlank,
    List.cons.injEq, List.rdropWhile_eq_self_iff]
  rcases List.eq_nil_or_concat rest with rfl | ⟨front, last, rfl⟩
  · simp [notBlank]
  · simp [List.getLast?_cons]

theorem trim_trim : trim (trim text) = trim text := by
  rcases opens with ⟨char, opens, notBlank⟩
  rcases List.head?_eq_some_iff.mp opens with ⟨rest, whole⟩
  simp only [trim, String.toList_ofList, whole, trimChars_cons notBlank, List.rdropWhile_idempotent]

theorem isComposite_trim : isComposite (trim text) = isComposite text := by
  have trimmed := congrArg String.toList (trim_trim opens)
  simp only [trim, String.toList_ofList] at trimmed
  rw [isComposite, trim, String.toList_ofList, trimmed, isComposite]

theorem isBlankText_eq_false : isBlankText text = false := by
  rcases opens with ⟨char, opens, notBlank⟩
  rw [isBlankText, List.all_eq_false]
  exact ⟨char, List.mem_of_mem_head? opens, by simp [notBlank]⟩

end

theorem endsBlank_intercalate (front : List String) {last : String} (notEmpty : last ≠ "") :
    endsBlank (" ".intercalate (front ++ [last])) = endsBlank last := by
  cases front with
  | nil => rw [List.nil_append, String.intercalate_singleton]
  | cons first rest =>
      rw [String.intercalate_append_of_ne_nil (by simp) (by simp), String.intercalate_singleton,
        endsBlank_append notEmpty]

end Text

open Text

/-! ### Terms -/

theorem endsBlank_render (literal : Literal) : endsBlank literal.render = false := by
  cases literal with
  | null => decide
  | bool value => cases value <;> decide
  | int value => exact endsBlank_of_isPlain (isPlain_intText value)
  | float value => exact endsBlank_of_isPlain (isPlain_floatText value)
  | text value => exact endsBlank_quote value
  | dateTime value => exact endsBlank_append (by decide)
  | node value => exact endsBlank_of_isPlain (isPlain_repr _)

namespace Term

/-- The term is a pattern `*text` over a text that ends in a blank. -/
def isOpenEnded : Term → Bool
  | wildcard _ text .endsWith => endsBlank text
  | _ => false

theorem endsBlank_text {leaf : Term} (notRaw : leaf.isRaw = false) :
    endsBlank leaf.text = leaf.isOpenEnded := by
  have afterColon (heading body : String) : endsBlank (heading ++ ":" ++ body) = endsBlank body :=
    endsBlank_append_of_eq_false (endsBlank_append (by decide)) body
  cases leaf with
  | equality field value => exact (afterColon field _).trans (endsBlank_render value)
  | range field op bound =>
      have closed : endsBlank (field ++ ":" ++ op.symbol) = false := by
        rw [afterColon]
        cases op <;> decide
      exact (endsBlank_append_of_eq_false closed _).trans (endsBlank_render bound)
  | wildcard field text shape =>
      rw [Term.text, afterColon]
      cases shape with
      | startsWith => exact endsBlank_append (by decide)
      | endsWith =>
          rw [pattern, endsBlank_append_of_eq_false (by decide), endsBlank_wildcardBody,
            isOpenEnded]
      | contains => exact endsBlank_append (by decide)
  | typeFilter typeName _ => exact (afterColon _ _).trans (endsBlank_quote _)
  | reference field _ => exact (afterColon field _).trans (endsBlank_of_isPlain (isPlain_repr _))
  | boolean field value =>
      have plain : IsPlain (Literal.boolText value) := by cases value <;> decide
      exact (afterColon field _).trans (endsBlank_of_isPlain plain)
  | scope _ path => exact (afterColon _ _).trans (endsBlank_quote _)
  | raw text => cases notRaw

end Term

/-! ### Clauses -/

namespace Clause

/-- The term at the end of a member, outside parentheses. -/
def closingTerm? : Clause → Option Term
  | term leaf => some leaf
  | not inner => inner.closingTerm?
  | and _ | or _ => none

/-- The term at the end of a clause, outside parentheses. -/
def lastTerm? : Clause → Option Term
  | and members | or members => members.getLast?.bind closingTerm?
  | clause => clause.closingTerm?

/-- The text of the clause ends in a blank, which is escaped. -/
def isOpenEnded (clause : Clause) : Bool :=
  clause.lastTerm?.any Term.isOpenEnded

theorem endsBlank_memberText {clause : Clause} (legible : clause.IsLegible) :
    endsBlank clause.memberText = clause.closingTerm?.any Term.isOpenEnded := by
  induction clause with
  | term leaf =>
      rw [isLegible_term] at legible
      rw [memberText_term legible, Term.endsBlank_text legible.not_raw]
      rfl
  | group connective members _ =>
      rw [memberText_group, endsBlank_append (by decide)]
      cases connective <;> rfl
  | not inner ih =>
      rw [isLegible_not] at legible
      rw [memberText_not, endsBlank_append_of_eq_false (by decide), ih legible, closingTerm?]

theorem endsBlank_text {clause : Clause} (legible : clause.IsLegible) :
    endsBlank clause.text = clause.isOpenEnded := by
  cases clause using group_induction with
  | term leaf =>
      rw [isLegible_term] at legible
      rw [text, Term.endsBlank_text legible.not_raw]
      rfl
  | group connective members _ =>
      have ends : (connective.group members).isOpenEnded =
          (members.getLast?.bind closingTerm?).any Term.isOpenEnded := by
        cases connective <;> rfl
      rw [isLegible_group] at legible
      rw [ends, text_group]
      rcases List.eq_nil_or_concat members with rfl | ⟨front, last, rfl⟩
      · rfl
      · have lastLegible := legible last (by simp)
        have solid := isSolid_memberText lastLegible
        have solidWithSign := isSolid_connective_memberText connective solid
        rw [List.concat_eq_append, sideBySide, Connective.memberTexts, List.map_append,
          List.map_singleton, endsBlank_intercalate _ solidWithSign.ne_empty, Connective.memberText,
          endsBlank_append solid.ne_empty, endsBlank_memberText lastLegible, List.getLast?_concat,
          Option.bind_some]
  | not inner _ =>
      rw [text, ← memberText_not, endsBlank_memberText legible]
      rfl

theorem exists_opening_text {clause : Clause} (canonical : clause.IsCanonical)
    (legible : clause.IsLegible) : ∃ char ∈ clause.text.toList.head?, isBlank char = false := by
  cases clause using group_induction with
  | term leaf =>
      rcases (isLegible_term.mp legible).exists_opening with ⟨char, opens, notStructural, _⟩
      exact ⟨char, opens, isBlank_eq_false_of_isStructural notStructural⟩
  | group connective members _ =>
      have sized := (isReduced_group.mp canonical.toIsReduced).1
      rw [isLegible_group] at legible
      match members, sized with
      | first :: rest, _ =>
          rcases exists_opening_memberText connective (legible first (by simp)) with
            ⟨char, opens, notBlank⟩
          rw [text_group, sideBySide, Connective.memberTexts, List.map_cons]
          exact ⟨char, head?_intercalate opens _, notBlank⟩
  | not inner _ => cases canonical.not_negated

/-- Trimming leaves the text of a canonical clause as it is, unless it ends in an escaped blank. -/
theorem trim_text_eq_self_iff {clause : Clause} (canonical : clause.IsCanonical)
    (legible : clause.IsLegible) :
    trim clause.text = clause.text ↔ clause.isOpenEnded = false := by
  rw [trim_eq_self_iff (exists_opening_text canonical legible), endsBlank_text legible]

end Clause

end ContentQuery
