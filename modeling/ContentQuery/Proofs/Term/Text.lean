import ContentQuery.Term.Text
import ContentQuery.Proofs.Text.Fragment
import Mathlib.Tactic.IntervalCases

/-!
# Text of literals and terms

Whatever a literal is, a reader passes over its text. So the text of a term is solid as soon as the
name of its field is plain, and it opens with that name.
-/

namespace ContentQuery

open Text Text.FragmentState

/-! ### Numbers -/

theorem isStructural_of_isDigit {char : Char} (digit : char.isDigit = true) :
    isStructural char = false := by
  have bounds : 48 ≤ char.toNat ∧ char.toNat ≤ 57 := by
    simpa [Char.isDigit, UInt32.le_iff_toNat_le] using digit
  rw [← Char.ofNat_toNat char]
  generalize char.toNat = code at bounds
  rcases bounds with ⟨lower, upper⟩
  interval_cases code <;> decide

theorem isPlain_repr (number : Nat) : IsPlain number.repr := by
  intro char charMem
  rw [Nat.toList_repr] at charMem
  exact isStructural_of_isDigit (Nat.isDigit_of_mem_toDigits (by decide) (by decide) charMem)

theorem isPlain_intText (value : Int64) : IsPlain (Literal.intText value) := by
  rw [Literal.intText]
  cases value.toInt with
  | ofNat number => exact isPlain_repr number
  | negSucc number => exact IsPlain.append (by decide) (isPlain_repr _)

theorem isPlain_positional (digits : Nat) (power : Int) : IsPlain (positional digits power) := by
  have zerosAndDigits (zeros : Nat) {char : Char}
      (charMem : char ∈ List.replicate zeros '0' ∨ char ∈ Nat.toDigits 10 digits) :
      isStructural char = false := by
    apply isStructural_of_isDigit
    rcases charMem with charMem | charMem
    · rw [List.eq_of_mem_replicate charMem]
      rfl
    · exact Nat.isDigit_of_mem_toDigits (by decide) (by decide) charMem
  intro char charMem
  simp only [positional] at charMem
  split at charMem
  · rw [String.toList_ofList, List.mem_append] at charMem
    exact zerosAndDigits _ charMem.symm
  · rw [String.toList_ofList, List.mem_append, List.mem_cons] at charMem
    rcases charMem with charMem | rfl | charMem
    · exact zerosAndDigits _ (List.mem_append.mp (List.mem_of_mem_take charMem))
    · decide
    · exact zerosAndDigits _ (List.mem_append.mp (List.mem_of_mem_drop charMem))

theorem isPlain_magnitudeText (number : Binary) : IsPlain number.magnitudeText := by
  rw [Binary.magnitudeText]
  split
  · decide
  · exact isPlain_positional _ _

theorem isPlain_floatText (value : Float) : IsPlain (floatText value) := by
  rw [floatText]
  split
  · decide
  · split <;> decide
  · split
    · exact IsPlain.append (by decide) (isPlain_magnitudeText _)
    · exact isPlain_magnitudeText _

/-! ### Timestamps -/

theorem passesOver_quoted_of_isPlain {text : String} (plain : IsPlain text) (depth : Nat) :
    (quoted depth).PassesOver text.toList := by
  rw [← List.flatMap_singleton' text.toList]
  apply passesOver_flatMap
  intro char charMem
  have ordinary := plain char charMem
  apply passesOver_quoted
  all_goals
    rintro rfl
    revert ordinary
    decide

theorem isPlain_padded (width number : Nat) : IsPlain (Timestamp.padded width number) := by
  intro char charMem
  apply isStructural_of_isDigit
  rw [Timestamp.padded, String.toList_ofList, List.leftpad, List.mem_append] at charMem
  rcases charMem with charMem | charMem
  · rw [List.eq_of_mem_replicate charMem]
    rfl
  · exact Nat.isDigit_of_mem_toDigits (by decide) (by decide) charMem

theorem isPlain_yearText (year : Int) : IsPlain (Timestamp.yearText year) := by
  rw [Timestamp.yearText]
  split
  · exact IsPlain.append (by decide) (isPlain_padded _ _)
  · exact isPlain_padded _ _

/-- The blank between date and time of day stands inside the quotes. -/
theorem passesOver_timestamp (timestamp : Timestamp) (depth : Nat) :
    (quoted depth).PassesOver timestamp.text.toList := by
  have mark (text : String) (plain : IsPlain text) := passesOver_quoted_of_isPlain plain depth
  have year (value : Int) := passesOver_quoted_of_isPlain (isPlain_yearText value) depth
  have number (width value : Nat) := passesOver_quoted_of_isPlain (isPlain_padded width value) depth
  have blank : (quoted depth).PassesOver " ".toList := passesOver_quoted (by decide) (by decide)
  have dash := mark "-" (by decide)
  have colon := mark ":" (by decide)
  have point := mark "." (by decide)
  simp only [Timestamp.text, String.toList_append]
  apply PassesOver.append _ (number 4 _)
  apply PassesOver.append _ point
  apply PassesOver.append _ (number 2 _)
  apply PassesOver.append _ colon
  apply PassesOver.append _ (number 2 _)
  apply PassesOver.append _ colon
  apply PassesOver.append _ (number 2 _)
  apply PassesOver.append _ blank
  apply PassesOver.append _ (number 2 _)
  apply PassesOver.append _ dash
  apply PassesOver.append _ (number 2 _)
  exact (year _).append dash

/-! ### Literals -/

theorem passesOver_quote (text : String) (depth : Nat) :
    (outside depth).PassesOver (Text.quote text).toList := by
  rw [Text.quote, String.toList_ofList]
  exact passesOver_quoteChars depth text.toList

/-- A reader passes over the text of a literal, whatever the literal is. -/
theorem passesOver_render (literal : Literal) (depth : Nat) :
    (outside depth).PassesOver literal.render.toList := by
  cases literal with
  | null => exact passesOver_quotes (passesOver_nil _)
  | bool value => cases value <;> exact IsPlain.passesOver (by decide) depth
  | int value => exact (isPlain_intText value).passesOver depth
  | float value => exact (isPlain_floatText value).passesOver depth
  | text value => exact passesOver_quote value depth
  | dateTime value =>
      rw [Literal.render, String.toList_append, String.toList_append]
      exact passesOver_quotes (passesOver_timestamp value depth)
  | node value => exact (isPlain_repr _).passesOver depth

/-! ### Terms -/

namespace Term

/-- The field that a term names. -/
def field? : Term → Option String
  | equality field _ | range field _ _ | wildcard field _ _ | reference field _ | boolean field _ =>
    some field
  | typeFilter _ _ | scope _ _ | raw _ => none

/-- The term is text supplied by a caller. -/
def isRaw : Term → Bool
  | raw _ => true
  | _ => false

/-- The words that stand in the place of a field. -/
def keywords : List String :=
  ["Type", "TypeIs", "InFolder", "InTree"]

/-- A term whose text can be read back: it is no raw text, and the name of its field is plain and
does not open with a sign. -/
structure IsLegible (leaf : Term) : Prop where
  not_raw : leaf.isRaw = false
  plain_field : ∀ name ∈ leaf.field?, IsPlain name
  unsigned_field : ∀ name ∈ leaf.field?, IsUnsigned name

instance (leaf : Term) : Decidable leaf.IsLegible :=
  decidable_of_iff (leaf.isRaw = false ∧ (∀ name ∈ leaf.field?, IsPlain name) ∧
      ∀ name ∈ leaf.field?, IsUnsigned name)
    ⟨fun ⟨notRaw, plain, unsigned⟩ => ⟨notRaw, plain, unsigned⟩,
      fun ⟨notRaw, plain, unsigned⟩ => ⟨notRaw, plain, unsigned⟩⟩

variable {leaf : Term}

theorem passesOver_pattern (shape : WildcardShape) (text : String) (depth : Nat) :
    (outside depth).PassesOver (pattern shape (wildcardBody text)).toList := by
  have body : (outside depth).PassesOver (wildcardBody text).toList := by
    rw [wildcardBody, String.toList_ofList]
    exact passesOver_wildcardChars depth text.toList
  have star : (outside depth).PassesOver "*".toList := IsPlain.passesOver (by decide) depth
  cases shape <;> simp only [pattern, String.toList_append]
  · exact body.append star
  · exact star.append body
  · exact (star.append body).append star

/-- The text of a term is a field or a keyword, a colon, and a body that a reader passes over. -/
theorem exists_body (notRaw : leaf.isRaw = false) :
    ∃ heading body, leaf.text = heading ++ ":" ++ body ∧
      (heading ∈ keywords ∨ leaf.field? = some heading) ∧
        ∀ depth, (outside depth).PassesOver body.toList := by
  cases leaf with
  | equality field value => exact ⟨field, _, rfl, .inr rfl, passesOver_render value⟩
  | range field op bound =>
      refine ⟨field, op.symbol ++ bound.render, String.append_assoc .., .inr rfl, ?_⟩
      intro depth
      have plain : IsPlain op.symbol := by cases op <;> decide
      rw [String.toList_append]
      exact (plain.passesOver depth).append (passesOver_render bound depth)
  | wildcard field text shape => exact ⟨field, _, rfl, .inr rfl, passesOver_pattern shape text⟩
  | typeFilter typeName transitive =>
      refine ⟨_, _, rfl, .inl ?_, passesOver_quote _⟩
      cases transitive <;> decide
  | reference field target => exact ⟨field, _, rfl, .inr rfl, (isPlain_repr _).passesOver⟩
  | boolean field value =>
      refine ⟨field, _, rfl, .inr rfl, IsPlain.passesOver ?_⟩
      cases value <;> decide
  | scope kind path =>
      refine ⟨_, _, rfl, .inl ?_, passesOver_quote _⟩
      cases kind <;> decide
  | raw text => cases notRaw

/-- The text of a term opens with a colon, with a keyword or with its field. -/
theorem exists_opening (notRaw : leaf.isRaw = false) :
    ∃ char ∈ leaf.text.toList.head?,
      char ∈ [':', 'T', 'I'] ∨ ∃ name ∈ leaf.field?, char ∈ name.toList.head? := by
  rcases exists_body notRaw with ⟨heading, body, whole, origin, _⟩
  rw [whole, String.toList_append, String.toList_append]
  cases chars : heading.toList with
  | nil => exact ⟨':', rfl, .inl (by decide)⟩
  | cons char rest =>
      refine ⟨char, rfl, ?_⟩
      rcases origin with keyword | named
      · left
        simp only [keywords, List.mem_cons, List.not_mem_nil, or_false] at keyword
        rcases keyword with rfl | rfl | rfl | rfl
        all_goals
          rcases List.cons.inj chars with ⟨rfl, _⟩
          decide
      · right
        exact ⟨heading, named, by rw [chars]; rfl⟩

namespace IsLegible

theorem exists_opening (legible : leaf.IsLegible) :
    ∃ char ∈ leaf.text.toList.head?, isStructural char = false ∧ isSign char = false := by
  rcases Term.exists_opening legible.not_raw with ⟨char, opens, known | ⟨name, named, opensName⟩⟩
  · refine ⟨char, opens, ?_⟩
    simp only [List.mem_cons, List.not_mem_nil, or_false] at known
    rcases known with rfl | rfl | rfl <;> decide
  · refine ⟨char, opens, ?_, legible.unsigned_field name named char opensName⟩
    exact legible.plain_field name named char (List.mem_of_mem_head? opensName)

/-- The text of a legible term is one piece. -/
theorem isSolid_text (legible : leaf.IsLegible) : IsSolid leaf.text := by
  rcases exists_body legible.not_raw with ⟨heading, body, whole, origin, passes⟩
  have plainKeywords : ∀ keyword ∈ keywords, IsPlain keyword := by decide
  have plain : IsPlain heading := by
    rcases origin with keyword | named
    · exact plainKeywords heading keyword
    · exact legible.plain_field heading named
  constructor
  · rw [whole]
    simp
  · intro depth
    rw [whole, String.toList_append]
    exact ((plain.append (by decide)).passesOver depth).append (passes depth)

end IsLegible

end Term

end ContentQuery
