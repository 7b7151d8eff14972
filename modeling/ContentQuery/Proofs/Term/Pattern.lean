import ContentQuery.Proofs.Text.Quoted
import ContentQuery.Term.Text

/-!
# Reading a pattern

A pattern shows where its fixed text stands by a star at the front, at the end, or at both ends. The
fixed text may hold stars of its own, but these are escaped, as is every other special character in
it.

The main statement is that the pattern of a text that is not empty gives back both the place and the
text. The empty text has to be left out: `*` would be its pattern at the front as well as at the
end.
-/

namespace ContentQuery

namespace Text

/-- The characters that no backslash in front of them escapes. -/
def unescaped : List Char → List Char
  | '\\' :: _ :: rest => unescaped rest
  | char :: rest => char :: unescaped rest
  | [] => []

/-- The body is the text with backslashes in it that escape at least the special characters. -/
inductive Escapes : List Char → List Char → Prop
  | nil : Escapes [] []
  | escaped (char : Char) {body text : List Char} (rest : Escapes body text) :
    Escapes ('\\' :: char :: body) (char :: text)
  | ordinary {char : Char} (ordinary : isSpecial char = false) {body text : List Char}
    (rest : Escapes body text) : Escapes (char :: body) (char :: text)

/-- What follows a star at the front. -/
def dropFirstStar? : List Char → Option (List Char)
  | '*' :: rest => some rest
  | _ => none

/-- What precedes a star at the end that is not escaped. -/
def dropLastStar? : List Char → Option (List Char)
  | ['*'] => some []
  | '\\' :: char :: rest => (dropLastStar? rest).map fun front => '\\' :: char :: front
  | char :: rest => (dropLastStar? rest).map (char :: ·)
  | [] => none

/-- The place of the fixed text in a pattern and the body in which it is written, taken from the
stars around it. -/
def readPattern (chars : List Char) : Option (WildcardShape × List Char) :=
  match dropFirstStar? chars with
  | some rest =>
    match dropLastStar? rest with
    | some body => some (.contains, body)
    | none => some (.endsWith, rest)
  | none => (dropLastStar? chars).map (.startsWith, ·)

theorem ne_backslash_of_ordinary {char : Char} (ordinary : isSpecial char = false) :
    char ≠ '\\' := by
  rintro rfl
  exact absurd ordinary (by decide)

theorem ne_star_of_ordinary {char : Char} (ordinary : isSpecial char = false) : char ≠ '*' := by
  rintro rfl
  exact absurd ordinary (by decide)

theorem unescaped_cons {char : Char} (notBackslash : char ≠ '\\') (rest : List Char) :
    unescaped (char :: rest) = char :: unescaped rest := by
  cases rest <;> simp [unescaped, notBackslash]

theorem dropLastStar?_cons {char : Char} (notBackslash : char ≠ '\\') (notStar : char ≠ '*')
    (rest : List Char) : dropLastStar? (char :: rest) = (dropLastStar? rest).map (char :: ·) := by
  cases rest <;> simp [dropLastStar?, notBackslash, notStar]

/-! ### The body of a pattern -/

theorem escapes_flatMap_escapeSpecial (chars : List Char) :
    Escapes (chars.flatMap escapeSpecial) chars := by
  induction chars with
  | nil => exact .nil
  | cons char chars ih =>
      rw [List.flatMap_cons, escapeSpecial]
      split
      case isTrue => exact .escaped char ih
      case isFalse notSpecial => exact .ordinary (Bool.eq_false_iff.mpr notSpecial) ih

theorem escapes_wildcardChars (chars : List Char) : Escapes (wildcardChars chars) chars := by
  cases chars with
  | nil => exact .nil
  | cons first rest =>
      rw [wildcardChars]
      split
      case isTrue => exact .escaped first (escapes_flatMap_escapeSpecial rest)
      case isFalse => exact escapes_flatMap_escapeSpecial (first :: rest)

namespace Escapes

variable {body text : List Char}

theorem unescape_eq (escapes : Escapes body text) : unescape body = text := by
  induction escapes with
  | nil => rfl
  | escaped char rest ih => exact congrArg (char :: ·) ih
  | @ordinary char ordinary body text rest ih =>
      rw [unescape_cons (ne_backslash_of_ordinary ordinary), ih]

theorem isSpecial_eq_false (escapes : Escapes body text) {char : Char}
    (charMem : char ∈ unescaped body) : isSpecial char = false := by
  induction escapes with
  | nil => cases charMem
  | escaped first rest ih => exact ih charMem
  | @ordinary first ordinary body text rest ih =>
      rw [unescaped_cons (ne_backslash_of_ordinary ordinary), List.mem_cons] at charMem
      rcases charMem with rfl | charMem
      · exact ordinary
      · exact ih charMem

theorem dropFirstStar?_append (escapes : Escapes body text) (notEmpty : text ≠ [])
    (after : List Char) :
    dropFirstStar? (body ++ after) = none := by
  cases escapes with
  | nil => exact absurd rfl notEmpty
  | escaped char rest => rfl
  | ordinary ordinary rest => simp [dropFirstStar?, ne_star_of_ordinary ordinary]

/-- All stars of a body are escaped, so a star behind it is the one at the end of the pattern. -/
theorem dropLastStar?_append_star (escapes : Escapes body text) :
    dropLastStar? (body ++ ['*']) = some body := by
  induction escapes with
  | nil => rfl
  | escaped char rest ih => simp [dropLastStar?, ih]
  | ordinary ordinary rest ih =>
      rw [List.cons_append, dropLastStar?_cons (ne_backslash_of_ordinary ordinary)
        (ne_star_of_ordinary ordinary), ih]
      rfl

theorem dropLastStar?_eq_none (escapes : Escapes body text) : dropLastStar? body = none := by
  induction escapes with
  | nil => rfl
  | escaped char rest ih => simp [dropLastStar?, ih]
  | ordinary ordinary rest ih =>
      rw [dropLastStar?_cons (ne_backslash_of_ordinary ordinary) (ne_star_of_ordinary ordinary), ih]
      rfl

end Escapes

end Text

namespace Term

open Text

/-- The stars around a body show its place and the body itself. -/
theorem readPattern_pattern {text : String} (notEmpty : text ≠ "") (shape : WildcardShape) :
    readPattern (pattern shape (wildcardBody text)).toList =
      some (shape, wildcardChars text.toList) := by
  have escapes := escapes_wildcardChars text.toList
  have nonempty : text.toList ≠ [] := by simpa using notEmpty
  cases shape with
  | startsWith =>
      have closed := escapes.dropLastStar?_append_star
      simp [pattern, wildcardBody, readPattern, escapes.dropFirstStar?_append nonempty, closed]
  | endsWith =>
      simp [pattern, wildcardBody, readPattern, dropFirstStar?, escapes.dropLastStar?_eq_none]
  | contains =>
      simp [pattern, wildcardBody, readPattern, dropFirstStar?, escapes.dropLastStar?_append_star]

/-- Patterns of texts that are not empty are written alike only if they have one shape and one text.
The stars around the body give the shape, the body without its escapes is the text, and no star,
blank, quote or parenthesis in the body is without an escape. -/
theorem text_wildcard_eq_iff (field : String) {text text' : String} (notEmpty : text ≠ "")
    (notEmpty' : text' ≠ "") (shape shape' : WildcardShape) :
    ((wildcard field text shape).text = (wildcard field text' shape').text ↔
        shape = shape' ∧ text = text') ∧
      ∃ written body, (wildcard field text shape).text = field ++ ":" ++ written ∧
        readPattern written.toList = some (shape, body) ∧ unescape body = text.toList ∧
          ∀ char ∈ unescaped body, char ≠ '*' ∧ isStructural char = false := by
  have escapes := escapes_wildcardChars text.toList
  refine ⟨⟨fun same => ?_, ?_⟩, _, _, rfl, readPattern_pattern notEmpty shape,
    escapes.unescape_eq, fun char charMem => ?_⟩
  · have samePattern : pattern shape (wildcardBody text) = pattern shape' (wildcardBody text') :=
      (String.append_right_inj _).mp same
    have read := readPattern_pattern notEmpty shape
    rw [samePattern, readPattern_pattern notEmpty' shape', Option.some.injEq, Prod.mk.injEq] at read
    rcases read with ⟨sameShape, sameBody⟩
    have sameChars : text'.toList = text.toList := by
      rw [← escapes.unescape_eq, ← sameBody, (escapes_wildcardChars text'.toList).unescape_eq]
    exact ⟨sameShape.symm, String.toList_injective sameChars.symm⟩
  · rintro ⟨rfl, rfl⟩
    rfl
  · have ordinary := escapes.isSpecial_eq_false charMem
    exact ⟨ne_star_of_ordinary ordinary, FragmentState.isStructural_eq_false ordinary⟩

/-- A star at the end of a text is escaped, so it is not taken for the star at the end of
a pattern. -/
theorem text_wildcard_eq_iff_star :
    let atEnd : Term := .wildcard "Name" "a*" .endsWith
    let anywhere : Term := .wildcard "Name" "a" .contains
    "a*" ≠ "" ∧ "a" ≠ "" ∧ atEnd.text = "Name:*a\\*" ∧ anywhere.text = "Name:*a*" ∧
      atEnd.text ≠ anywhere.text ∧
        ∃ written body, atEnd.text = "Name" ++ ":" ++ written ∧
          readPattern written.toList = some (.endsWith, body) ∧ unescape body = "a*".toList := by
  intro atEnd anywhere
  have notEmpty : "a*" ≠ "" := by decide
  have notEmpty' : "a" ≠ "" := by decide
  rcases text_wildcard_eq_iff "Name" notEmpty notEmpty' .endsWith .contains with
    ⟨determines, written, body, whole, reads, plain, _⟩
  refine ⟨notEmpty, notEmpty', by decide, by decide, fun same => ?_, written, body, whole,
    reads, plain⟩
  exact absurd (determines.mp same).1 (by decide)

end Term

end ContentQuery
