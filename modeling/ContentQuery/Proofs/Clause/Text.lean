import ContentQuery.Clause.Text
import ContentQuery.Proofs.Clause.Canonical
import ContentQuery.Proofs.Term.Text

/-!
# Text of clauses

The text of a clause inside another clause is one piece, whatever its literals are: a reader passes
over it. The text of a group at the top is several pieces, or opens with a sign.

The main statement is that a fragment with the text of a canonical clause is composite exactly if
the clause is a group.
-/

namespace ContentQuery

open Text Text.FragmentState

/-- The mark in front of a member of a written group. -/
inductive Sign where
  | required
  | prohibited
  | optional
deriving DecidableEq, Repr

/-- The text of a sign. -/
def Sign.text : Sign → String
  | required => "+"
  | prohibited => "-"
  | optional => ""

namespace Connective

/-- The sign of a member that is not negated. -/
def sign : Connective → Sign
  | and => .required
  | or => .optional

/-- The text of a member of a group. -/
def memberText (connective : Connective) (member : Clause) : String :=
  (if member.isNegated then "" else connective.sign.text) ++ member.memberText

/-- The texts of the members of a group. -/
def memberTexts (connective : Connective) (members : List Clause) : List String :=
  members.map connective.memberText

end Connective

namespace Clause

theorem conjunctTexts_eq_memberTexts (members : List Clause) :
    conjunctTexts members = Connective.and.memberTexts members := by
  induction members with
  | nil => rfl
  | cons member members ih =>
      rw [conjunctTexts, ih]
      rfl

theorem disjunctTexts_eq_memberTexts (members : List Clause) :
    disjunctTexts members = Connective.or.memberTexts members := by
  induction members with
  | nil => rfl
  | cons member members ih =>
      rw [disjunctTexts, ih]
      simp [Connective.memberTexts, Connective.memberText, Connective.sign, Sign.text]

variable (connective : Connective) (members : List Clause)

theorem text_group :
    (connective.group members).text = sideBySide (connective.memberTexts members) := by
  cases connective <;>
    simp [Connective.group, text, conjunctTexts_eq_memberTexts, disjunctTexts_eq_memberTexts]

theorem memberText_group :
    (connective.group members).memberText = "(" ++ (connective.group members).text ++ ")" := by
  cases connective <;> simp [Connective.group, text, memberText]

theorem memberText_not (inner : Clause) : (not inner).memberText = "-" ++ inner.memberText := by
  rw [memberText]

/-- All terms of the clause are legible. -/
def IsLegible (clause : Clause) : Prop :=
  ∀ leaf ∈ clause.terms, leaf.IsLegible

instance (clause : Clause) : Decidable clause.IsLegible :=
  inferInstanceAs (Decidable (∀ leaf ∈ clause.terms, leaf.IsLegible))

variable {connective members}

theorem isLegible_term {leaf : Term} : (term leaf).IsLegible ↔ leaf.IsLegible := by
  simp [IsLegible, terms]

theorem isLegible_not {inner : Clause} : (not inner).IsLegible ↔ inner.IsLegible := by
  rw [IsLegible, terms, IsLegible]

theorem isLegible_group :
    (connective.group members).IsLegible ↔ ∀ member ∈ members, member.IsLegible := by
  simp only [IsLegible, terms_group, List.mem_flatMap]
  constructor
  · intro legible member memberMem leaf leafMem
    exact legible leaf ⟨member, memberMem, leafMem⟩
  · rintro legible leaf ⟨member, memberMem, leafMem⟩
    exact legible member memberMem leaf leafMem

/-- A legible term needs no parentheses. -/
theorem memberText_term {leaf : Term} (legible : leaf.IsLegible) :
    (term leaf).memberText = leaf.text := by
  have simple : leaf.isCompositeFragment = false := by
    cases leaf with
    | raw text => cases legible.not_raw
    | _ => rfl
  simp [memberText, simple]

theorem isSolid_connective_memberText (connective : Connective) {member : Clause}
    (solid : IsSolid member.memberText) : IsSolid (connective.memberText member) := by
  have plainSign : IsPlain (if member.isNegated then "" else connective.sign.text) := by
    cases member.isNegated <;> cases connective <;> decide
  exact solid.prepend plainSign

/-- The text of a legible clause inside another clause is one piece. -/
theorem isSolid_memberText {clause : Clause} (legible : clause.IsLegible) :
    IsSolid clause.memberText := by
  induction clause with
  | term leaf =>
      rw [isLegible_term] at legible
      rw [memberText_term legible]
      exact legible.isSolid_text
  | group connective members ih =>
      rw [isLegible_group] at legible
      rw [memberText_group, text_group]
      apply isSolid_parentheses
      apply passesOver_intercalate
      intro text textMem
      rcases List.mem_map.mp textMem with ⟨member, memberMem, rfl⟩
      have solid := ih member memberMem (legible member memberMem)
      exact isSolid_connective_memberText connective solid
  | not inner ih =>
      rw [isLegible_not] at legible
      rw [memberText_not]
      exact (ih legible).prepend (by decide)

theorem isSolid_of_mem_memberTexts {text : String}
    (legible : ∀ member ∈ members, member.IsLegible)
    (textMem : text ∈ connective.memberTexts members) : IsSolid text := by
  rcases List.mem_map.mp textMem with ⟨member, memberMem, rfl⟩
  exact isSolid_connective_memberText connective (isSolid_memberText (legible member memberMem))

/-! ### Openings -/

theorem head?_memberText_group :
    (connective.group members).memberText.toList.head? = some '(' := by
  rw [memberText_group, String.append_assoc, String.toList_append]
  rfl

theorem head?_memberText_not (inner : Clause) :
    (not inner).memberText.toList.head? = some '-' := by
  rw [memberText_not, String.toList_append]
  rfl

@[simp]
theorem isNegated_term (leaf : Term) : (term leaf).isNegated = false := rfl

@[simp]
theorem isNegated_not (inner : Clause) : (not inner).isNegated = true := rfl

@[simp]
theorem isComposite_term (leaf : Term) : (term leaf).isComposite = false := rfl

@[simp]
theorem isComposite_not (inner : Clause) : (not inner).isComposite = false := rfl

@[simp]
theorem isNegated_group : (connective.group members).isNegated = false := by
  cases connective <;> rfl

@[simp]
theorem isComposite_group : (connective.group members).isComposite = true := by
  cases connective <;> rfl

/-- The first character tells groups and negations from terms, and it is not blank. -/
theorem exists_opening {clause : Clause} (legible : clause.IsLegible) :
    ∃ char ∈ clause.memberText.toList.head?, isBlank char = false ∧
      isSign char = clause.isNegated ∧ (char == '(') = clause.isComposite := by
  cases clause using group_induction with
  | term leaf =>
      rw [isLegible_term] at legible
      rw [memberText_term legible]
      rcases legible.exists_opening with ⟨char, opens, notStructural, notSign⟩
      refine ⟨char, opens, isBlank_eq_false_of_isStructural notStructural, notSign, ?_⟩
      apply beq_false_of_ne
      rintro rfl
      cases notStructural
  | group connective members _ =>
      refine ⟨'(', head?_memberText_group, by decide, ?_, ?_⟩
      · rw [isNegated_group]
        decide
      · rw [isComposite_group]
        decide
  | not inner _ => exact ⟨'-', head?_memberText_not inner, by decide, rfl, rfl⟩

theorem exists_opening_memberText (connective : Connective) {member : Clause}
    (legible : member.IsLegible) :
    ∃ char ∈ (connective.memberText member).toList.head?, isBlank char = false := by
  rcases exists_opening legible with ⟨char, opens, notBlank, _, _⟩
  rw [Connective.memberText, String.toList_append]
  split
  · exact ⟨char, opens, notBlank⟩
  · cases connective with
    | and => exact ⟨'+', rfl, by decide⟩
    | or => exact ⟨char, opens, notBlank⟩

/-- Inside another clause, groups stand in parentheses and terms do not. -/
theorem memberText_eq_ite {clause : Clause} (notNegated : clause.isNegated = false)
    (legible : clause.IsLegible) :
    clause.memberText = if clause.isComposite then "(" ++ clause.text ++ ")" else clause.text := by
  cases clause using group_induction with
  | term leaf =>
      rw [isLegible_term] at legible
      rw [memberText_term legible]
      rfl
  | group connective members _ => rw [memberText_group, isComposite_group, if_pos rfl]
  | not inner _ => cases notNegated

/-! ### Fragments with the text of a clause -/

/-- The first blank at the top of a group separates two members, also after trimming. -/
theorem isComposite_eq_true_of_group (sized : 2 ≤ members.length)
    (legible : ∀ member ∈ members, member.IsLegible) :
    Text.isComposite (connective.group members).text = true := by
  match members, sized with
  | first :: second :: rest, _ =>
      rcases List.forall_mem_cons.mp legible with ⟨firstLegible, restLegible⟩
      have secondLegible := restLegible second (by simp)
      have passes := (isSolid_connective_memberText connective
        (isSolid_memberText firstLegible)).passes 0
      rcases exists_opening_memberText connective firstLegible with ⟨char, opens, notBlank⟩
      rcases exists_opening_memberText connective secondLegible with ⟨next, nextOpens, nextNotBlank⟩
      rcases List.head?_eq_some_iff.mp opens with ⟨front, firstWhole⟩
      rcases List.head?_eq_some_iff.mp
        (head?_intercalate nextOpens (connective.memberTexts rest)) with ⟨back, restWhole⟩
      rw [firstWhole] at passes
      have whole : (connective.group (first :: second :: rest)).text.toList =
          char :: front ++ ' ' :: next :: back := by
        rw [← firstWhole, ← restWhole, text_group]
        simp [sideBySide, Connective.memberTexts]
      rw [Text.isComposite, whole]
      exact isCompositeChars_of_separator notBlank passes.scan_eq (by decide) List.mem_cons_self
        nextNotBlank

theorem isComposite_eq_false_of_term {leaf : Term} (legible : leaf.IsLegible) :
    Text.isComposite leaf.text = false := by
  rcases legible.exists_opening with ⟨char, opens, notStructural, notSign⟩
  rcases List.head?_eq_some_iff.mp opens with ⟨rest, whole⟩
  have passes := legible.isSolid_text.passes 0
  rw [whole] at passes
  rw [Text.isComposite, whole]
  exact isCompositeChars_eq_false (isBlank_eq_false_of_isStructural notStructural) notSign passes

theorem isComposite_text {clause : Clause} (canonical : clause.IsCanonical)
    (legible : clause.IsLegible) : Text.isComposite clause.text = clause.isComposite := by
  cases clause using group_induction with
  | term leaf =>
      rw [isLegible_term] at legible
      rw [text, isComposite_eq_false_of_term legible, isComposite_term]
  | group connective members _ =>
      rcases isReduced_group.mp canonical.toIsReduced with ⟨sized, _, _⟩
      rw [isLegible_group] at legible
      rw [isComposite_eq_true_of_group sized legible, isComposite_group]
  | not inner _ => cases canonical.not_negated

/-- A fragment with the text of a canonical clause is composite exactly if the clause is a group. -/
theorem isCompositeFragment_text_iff {clause : Clause} (canonical : clause.IsCanonical)
    (legible : clause.IsLegible) :
    (Term.raw clause.text).isCompositeFragment = true ↔ clause.isComposite = true := by
  rw [Term.isCompositeFragment, isComposite_text canonical legible]

/-- A pattern over a text that ends in a blank loses the blank and stays one clause; in a
disjunction the blank before it still separates. -/
theorem isCompositeFragment_text_trailingBlank :
    let leaf := term (.wildcard "Name" "it's (a " .endsWith)
    let alternatives := or [leaf, not (Term.equality "Title" (.text "b \\")), leaf]
    (leaf.IsCanonical ∧ leaf.IsLegible ∧
      ((Term.raw leaf.text).isCompositeFragment = true ↔ leaf.isComposite = true)) ∧
    alternatives.IsCanonical ∧ alternatives.IsLegible ∧
      ((Term.raw alternatives.text).isCompositeFragment = true ↔
        alternatives.isComposite = true) := by
  intro leaf alternatives
  have leafCanonical : leaf.IsCanonical := @isCanonical_normalize "Id" leaf ⟨leaf, false⟩ rfl
  have leafLegible : leaf.IsLegible := by decide
  have alternativesCanonical : alternatives.IsCanonical :=
    @isCanonical_normalize "Id" alternatives ⟨alternatives, false⟩ rfl
  have alternativesLegible : alternatives.IsLegible := by decide
  exact ⟨⟨leafCanonical, leafLegible, isCompositeFragment_text_iff leafCanonical leafLegible⟩,
    alternativesCanonical, alternativesLegible,
    isCompositeFragment_text_iff alternativesCanonical alternativesLegible⟩

end Clause

end ContentQuery
