import ContentQuery.Proofs.Text.Quoted

/-!
# Reading a literal text

A reader that meets a literal text in query text has to find out where it ends. In quotes it ends
with the first quote that is not escaped; bare, it ends before a blank or a closing parenthesis.

The main statement is that this reader takes just the written form of a text and gives the text
back, whatever follows, as long as nothing follows that could belong to a bare text.
-/

namespace ContentQuery.Text

/-- The characters in front of the quote that closes them, escapes undone, and the characters behind
that quote. -/
def readQuoted : List Char → Option (List Char × List Char)
  | '\x27' :: rest => some ([], rest)
  | '\\' :: char :: rest => (readQuoted rest).map (Prod.map (char :: ·) id)
  | char :: rest => (readQuoted rest).map (Prod.map (char :: ·) id)
  | [] => none

/-- A bare text ends before this character. -/
def endsBare (char : Char) : Bool :=
  isBlank char || char == ')'

/-- A literal text at the front, and the characters that follow it. -/
def readLiteralChars : List Char → Option (List Char × List Char)
  | '\x27' :: rest => readQuoted rest
  | chars =>
    some (chars.takeWhile fun char => !endsBare char, chars.dropWhile fun char => !endsBare char)

/-- A literal text at the front of query text, and the rest of the query text. -/
def readLiteral (input : String) : Option (String × String) :=
  (readLiteralChars input.toList).map (Prod.map String.ofList String.ofList)

/-- Nothing at the front of the query text can belong to a bare text before it. -/
def IsBoundary (rest : String) : Prop :=
  rest.toList.head?.all endsBare = true

instance (rest : String) : Decidable (IsBoundary rest) :=
  inferInstanceAs (Decidable (_ = _))

variable {char : Char} {chars : List Char} {text rest : String}

/-! ### Texts in quotes -/

theorem readQuoted_cons (notQuote : char ≠ '\x27') (notBackslash : char ≠ '\\')
    (chars : List Char) :
    readQuoted (char :: chars) = (readQuoted chars).map (Prod.map (char :: ·) id) := by
  rw [readQuoted]
  · exact notQuote
  · rintro next rest rfl
    exact absurd rfl notBackslash

/-- Inside quotes, what is written for one character is read as this character. -/
theorem readQuoted_escapeQuoted_append (char : Char) (chars : List Char) :
    readQuoted (escapeQuoted char ++ chars) =
      (readQuoted chars).map (Prod.map (char :: ·) id) := by
  rw [escapeQuoted]
  split
  case isTrue => simp [readQuoted]
  case isFalse ordinary =>
      rw [not_or] at ordinary
      exact readQuoted_cons ordinary.1 ordinary.2 chars

theorem readQuoted_flatMap_escapeQuoted (chars after : List Char) :
    readQuoted (chars.flatMap escapeQuoted ++ '\x27' :: after) = some (chars, after) := by
  induction chars with
  | nil => simp [readQuoted]
  | cons char chars ih =>
      rw [List.flatMap_cons, List.append_assoc, readQuoted_escapeQuoted_append, ih]
      rfl

/-! ### Bare texts -/

theorem endsBare_eq_false (ordinary : isSpecial char = false) : endsBare char = false := by
  rw [isSpecial, Bool.or_eq_false_iff] at ordinary
  rw [endsBare, ordinary.1, Bool.false_or, beq_eq_false_iff_ne]
  rintro rfl
  exact absurd ordinary.2 (by decide)

theorem endsBare_eq_false_of_isBare (bare : IsBare text) (charMem : char ∈ text.toList) :
    endsBare char = false :=
  endsBare_eq_false (FragmentState.isSpecial_eq_false_of_bare bare charMem)

theorem readLiteralChars_of_head? (notQuote : chars.head? ≠ some '\x27') :
    readLiteralChars chars =
      some (chars.takeWhile fun char => !endsBare char,
        chars.dropWhile fun char => !endsBare char) := by
  cases chars with
  | nil => rfl
  | cons char chars =>
      rw [readLiteralChars]
      rintro _ ⟨rfl, _⟩
      exact notQuote rfl

theorem toList_head?_ne_quote (bare : IsBare text) (rest : String) :
    (text ++ rest).toList.head? ≠ some '\x27' := by
  intro opens
  rcases isBare_iff.mp bare with ⟨notEmpty, _, _⟩
  have nonempty : text.toList ≠ [] := by simpa using notEmpty
  rw [String.toList_append, List.head?_append_of_ne_nil _ nonempty] at opens
  exact notMem_of_isBare bare (List.mem_of_mem_head? opens)

theorem readLiteral_append_of_isBare (bare : IsBare text) (boundary : IsBoundary rest) :
    readLiteral (text ++ rest) = some (text, rest) := by
  have stops : rest.toList.takeWhile (fun char => !endsBare char) = [] ∧
      rest.toList.dropWhile (fun char => !endsBare char) = rest.toList := by
    cases chars : rest.toList with
    | nil => exact ⟨rfl, rfl⟩
    | cons char chars' =>
        have ends : endsBare char = true := by simpa [IsBoundary, chars] using boundary
        simp [ends]
  have ordinary : ∀ char ∈ text.toList, (!endsBare char) = true := by
    intro char charMem
    rw [endsBare_eq_false_of_isBare bare charMem]
    rfl
  rw [readLiteral, readLiteralChars_of_head? (toList_head?_ne_quote bare rest),
    String.toList_append, List.takeWhile_append_of_pos ordinary,
    List.dropWhile_append_of_pos ordinary, stops.1, stops.2]
  simp

/-! ### Written texts -/

/-- A text that is written in quotes is read up to its closing quote, whatever follows. -/
theorem readLiteral_append_of_not_isBare (quoted : ¬IsBare text) (rest : String) :
    readLiteral (quote text ++ rest) = some (text, rest) := by
  rw [readLiteral, String.toList_append, toList_quote_of_not_isBare quoted, List.cons_append,
    readLiteralChars, List.append_assoc, List.singleton_append, readQuoted_flatMap_escapeQuoted]
  simp

/-- The written form of a text is read as this text, and the reader stops right behind it. So the
written form determines the text. -/
theorem readLiteral_quote_append :
    (∀ text rest, IsBoundary rest → readLiteral (quote text ++ rest) = some (text, rest)) ∧
      Function.Injective quote := by
  constructor
  · intro text rest boundary
    by_cases bare : IsBare text
    · rw [quote_of_isBare bare]
      exact readLiteral_append_of_isBare bare boundary
    · exact readLiteral_append_of_not_isBare bare rest
  · exact quote_injective

/-- In quotes, a text with a quote, a backslash and an ideographic space is read up to the quote
that closes it; a bare text ends with the parenthesis around it. -/
theorem readLiteral_quote_append_parenthesis :
    let quoted := "it's\u3000a \\"
    let rest := ") .TOP:5"
    IsBoundary rest ∧ quote quoted = "'it\\'s\u3000a \\\\'" ∧
      readLiteral (quote quoted ++ rest) = some (quoted, rest) ∧
      quote "car" = "car" ∧ readLiteral (quote "car" ++ rest) = some ("car", rest) := by
  intro quoted rest
  have boundary : IsBoundary rest := by decide
  refine ⟨boundary, by decide, ?_, by decide, ?_⟩
  · exact readLiteral_quote_append.1 quoted rest boundary
  · exact readLiteral_quote_append.1 "car" rest boundary

end ContentQuery.Text
