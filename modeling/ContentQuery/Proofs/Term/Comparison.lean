import ContentQuery.Proofs.Text.Quoted
import ContentQuery.Term.Text

/-!
# Texts of comparisons

A term that compares a field with a text is written as the field, the operator if there is one, and
the text, which stands in quotes only if it holds a special character. The symbols of operators are
not special. So a bare text that opens with such a symbol is written like a bound behind its
operator. The main statement says that there are no other comparisons of the same text.
-/

namespace ContentQuery

open Text (IsBare)

namespace RangeOp

/-- The second operator admits equality besides what the first one admits. -/
def IsStrictOf (strict loose : RangeOp) : Prop :=
  strict.symbol ++ "=" = loose.symbol

instance (strict loose : RangeOp) : Decidable (strict.IsStrictOf loose) :=
  inferInstanceAs (Decidable (_ = _))

variable {op op' : RangeOp} {text text' : String}

theorem any_isSpecial_symbol (op : RangeOp) : op.symbol.toList.any Text.isSpecial = false := by
  cases op <;> decide

theorem head?_symbol_ne_dash (op : RangeOp) : op.symbol.toList.head? ≠ some '-' := by
  cases op <;> decide

theorem notMem_symbol (op : RangeOp) : '\x27' ∉ op.symbol.toList := by
  cases op <;> decide

theorem symbol_ne_empty (op : RangeOp) : op.symbol ≠ "" := by
  cases op <;> decide

theorem symbol_injective : Function.Injective symbol := by
  intro op op' same
  revert same
  cases op <;> cases op' <;> decide

/-- An operator can be read off the text in front of which it stands, unless the text opens with an
equals sign that makes the operator a different one. -/
theorem symbol_append_inj (same : op.symbol ++ text = op'.symbol ++ text') :
    (op = op' ∧ text = text') ∨ (op.IsStrictOf op' ∧ text = "=" ++ text') ∨
      (op'.IsStrictOf op ∧ text' = "=" ++ text) := by
  have sameChars := congrArg String.toList same
  cases op <;> cases op' <;>
    simp [symbol, IsStrictOf, ← String.toList_inj] at sameChars ⊢ <;> simp_all

end RangeOp

namespace Term

/-- The term compares the field with a text. -/
inductive ComparesText (field : String) : Term → Prop
  | equality (value : String) : ComparesText field (.equality field (.text value))
  | range (op : RangeOp) (bound : String) : ComparesText field (.range field op (.text bound))

/-- The first term is written like the second one, because what its text opens with completes an
operator. -/
inductive MistakenFor : Term → Term → Prop
  | equality (field : String) (op : RangeOp) {bound : String} (bare : IsBare bound) :
    MistakenFor (.equality field (.text (op.symbol ++ bound))) (.range field op (.text bound))
  | strict (field : String) {strict loose : RangeOp} (ofLoose : strict.IsStrictOf loose)
    {bound : String} (bare : IsBare bound) :
    MistakenFor (.range field strict (.text ("=" ++ bound))) (.range field loose (.text bound))

variable {field : String} {first second : Term}

theorem MistakenFor.text_eq (mistaken : first.MistakenFor second) : first.text = second.text := by
  cases mistaken with
  | equality field op bare =>
      have longer := bare.append op.any_isSpecial_symbol op.head?_symbol_ne_dash
      simp only [text, Literal.render]
      rw [Text.quote_of_isBare longer, Text.quote_of_isBare bare]
      simp only [String.append_assoc]
  | @strict field strict loose ofLoose bound bare =>
      have longer : IsBare ("=" ++ bound) := bare.append (by decide) (by decide)
      simp only [text, Literal.render]
      rw [Text.quote_of_isBare longer, Text.quote_of_isBare bare, ← ofLoose]
      simp only [String.append_assoc]

theorem mistakenFor_of_equality {value bound : String} {op : RangeOp}
    (same : (equality field (.text value)).text = (range field op (.text bound)).text) :
    (equality field (.text value)).MistakenFor (.range field op (.text bound)) := by
  simp only [text, Literal.render, String.append_assoc, String.append_right_inj] at same
  have behind : "" ++ Text.quote value = op.symbol ++ Text.quote bound := by
    rw [String.empty_append, same]
  rcases Text.append_quote_inj (by simp) op.notMem_symbol behind with
    ⟨noSymbol, _⟩ | ⟨_, bare, whole⟩
  · exact absurd noSymbol.symm op.symbol_ne_empty
  · rw [String.empty_append] at whole
    rw [whole]
    exact .equality field op bare

theorem mistakenFor_of_range {op op' : RangeOp} {bound bound' : String}
    (same : (range field op (.text bound)).text = (range field op' (.text bound')).text) :
    range field op (.text bound) = .range field op' (.text bound') ∨
      (range field op (.text bound)).MistakenFor (.range field op' (.text bound')) ∨
      (range field op' (.text bound')).MistakenFor (.range field op (.text bound)) := by
  simp only [text, Literal.render, String.append_assoc, String.append_right_inj] at same
  rcases Text.append_quote_inj op.notMem_symbol op'.notMem_symbol same with
    ⟨sameSymbol, rfl⟩ | ⟨bare, bare', same⟩
  · rw [RangeOp.symbol_injective sameSymbol]
    exact .inl rfl
  · rcases RangeOp.symbol_append_inj same with ⟨rfl, rfl⟩ | ⟨strict, rfl⟩ | ⟨strict, rfl⟩
    · exact .inl rfl
    · exact .inr (.inl (.strict field strict bare'))
    · exact .inr (.inr (.strict field strict bare))

/-- Two comparisons of a field with texts are written alike just if they are the same or one is
mistaken for the other: an equality with a bare text that opens with the symbol of an operator, or a
strict bound that is bare and opens with an equals sign. -/
theorem text_eq_iff_of_comparesText (firstCompares : ComparesText field first)
    (secondCompares : ComparesText field second) :
    first.text = second.text ↔
      first = second ∨ first.MistakenFor second ∨ second.MistakenFor first := by
  constructor
  · intro same
    cases firstCompares with
    | equality value =>
        cases secondCompares with
        | equality other =>
            simp only [text, Literal.render, String.append_right_inj] at same
            rw [Text.quote_injective same]
            exact .inl rfl
        | range op bound => exact .inr (.inl (mistakenFor_of_equality same))
    | range op bound =>
        cases secondCompares with
        | equality value => exact .inr (.inr (mistakenFor_of_equality same.symm))
        | range op' bound' => exact mistakenFor_of_range same
  · rintro (rfl | mistaken | mistaken)
    · rfl
    · exact mistaken.text_eq
    · exact mistaken.text_eq.symm

/-- A text that opens with the symbol for `<` is written like a bound, and a strict bound that opens
with an equals sign like one that is not strict. -/
theorem text_eq_iff_of_comparesText_symbol :
    let value : Term := .equality "Name" (.text "<5")
    let bound : Term := .range "Name" .lt (.text "5")
    let strict : Term := .range "Name" .gt (.text "=5")
    let loose : Term := .range "Name" .ge (.text "5")
    value.ComparesText "Name" ∧ bound.ComparesText "Name" ∧ value ≠ bound ∧
      value.text = bound.text ∧ bound.text = "Name:<5" ∧
      strict.ComparesText "Name" ∧ loose.ComparesText "Name" ∧ strict ≠ loose ∧
      strict.text = loose.text ∧ loose.text = "Name:>=5" := by
  intro value bound strict loose
  have bare : IsBare "5" := by decide
  have written : RangeOp.lt.symbol ++ "5" = "<5" := by decide
  have mistaken : MistakenFor (.equality "Name" (.text (RangeOp.lt.symbol ++ "5"))) bound :=
    .equality "Name" .lt bare
  rw [written] at mistaken
  have ofLoose : RangeOp.gt.IsStrictOf .ge := by decide
  have strictMistaken : strict.MistakenFor loose := .strict "Name" ofLoose bare
  have same := (text_eq_iff_of_comparesText (.equality "<5") (.range .lt "5")).mpr
    (.inr (.inl mistaken))
  have strictSame := (text_eq_iff_of_comparesText (.range .gt "=5") (.range .ge "5")).mpr
    (.inr (.inl strictMistaken))
  exact ⟨.equality "<5", .range .lt "5", by simp [value, bound], same, by decide,
    .range .gt "=5", .range .ge "5", by simp [strict, loose], strictSame, by decide⟩

end Term

end ContentQuery
