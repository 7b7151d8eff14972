import ContentQuery.Proofs.Clause.Text

/-!
# Reading back clauses

The outline of a clause keeps its groups and negations and of each term only the text. The main
statement is that the text of a readable clause determines its outline: signs and parentheses tell
conjunctions, disjunctions and negations apart at every depth, and no literal can imitate them.
-/

namespace ContentQuery

open Text Text.FragmentState

/-- The shape of a clause with the texts of its terms. -/
inductive Outline where
  | term (text : String)
  | group (connective : Connective) (members : List Outline)
  | not (inner : Outline)
deriving Repr

namespace Clause

mutual

/-- The clause with each term replaced by its text. -/
def outline : Clause → Outline
  | term leaf => .term leaf.text
  | and members => .group .and (outlines members)
  | or members => .group .or (outlines members)
  | not inner => .not inner.outline

/-- The outlines of several clauses. -/
def outlines : List Clause → List Outline
  | [] => []
  | member :: members => member.outline :: outlines members

end

/-- Some alternative of a disjunction is not negated. -/
def HasPositiveAlternative : Clause → Prop
  | or members => ∃ member ∈ members, member.isNegated = false
  | _ => True

/-- A clause whose text can be read back. -/
structure IsReadable (clause : Clause) : Prop where
  legible : clause.IsLegible
  two_members : clause.Everywhere HasTwoMembers
  positive_alternative : clause.Everywhere HasPositiveAlternative

variable {connective : Connective} {members : List Clause}

theorem outline_group :
    (connective.group members).outline = .group connective (members.map outline) := by
  have outlines_eq_map : outlines members = members.map outline := by
    induction members with
    | nil => rfl
    | cons member members ih => simp [outlines, ih]
  cases connective <;> simp [Connective.group, outline, outlines_eq_map]

theorem isReadable_not {inner : Clause} (readable : (not inner).IsReadable) : inner.IsReadable :=
  ⟨isLegible_not.mp readable.legible, (everywhere_not.mp readable.two_members).2,
    (everywhere_not.mp readable.positive_alternative).2⟩

theorem isReadable_of_mem (readable : (connective.group members).IsReadable) {member : Clause}
    (memberMem : member ∈ members) : member.IsReadable :=
  ⟨isLegible_group.mp readable.legible member memberMem,
    (everywhere_group.mp readable.two_members).2 member memberMem,
    (everywhere_group.mp readable.positive_alternative).2 member memberMem⟩

/-- In a conjunction every member opens with a sign. -/
theorem exists_sign_of_and (member : Clause) :
    ∃ char ∈ (Connective.and.memberText member).toList.head?, isSign char = true := by
  rw [Connective.memberText, String.toList_append]
  split
  case isTrue negated =>
      rcases exists_not_of_isNegated negated with ⟨inner, rfl⟩
      exact ⟨'-', head?_memberText_not inner, rfl⟩
  case isFalse => exact ⟨'+', rfl, rfl⟩

/-- A disjunction with a positive alternative never has the texts of a conjunction. -/
theorem memberTexts_and_ne_or {conjuncts disjuncts : List Clause}
    (legible : ∀ member ∈ disjuncts, member.IsLegible)
    (positive : ∃ member ∈ disjuncts, member.isNegated = false) :
    Connective.and.memberTexts conjuncts ≠ Connective.or.memberTexts disjuncts := by
  intro same
  rcases positive with ⟨member, memberMem, notNegated⟩
  have textMem : Connective.or.memberText member ∈ Connective.and.memberTexts conjuncts := by
    rw [same]
    exact List.mem_map_of_mem memberMem
  rcases List.mem_map.mp textMem with ⟨conjunct, _, sameText⟩
  rcases exists_sign_of_and conjunct with ⟨sign, signOpens, isSign⟩
  rcases exists_opening (legible member memberMem) with ⟨char, opens, _, notSign, _⟩
  rw [sameText] at signOpens
  simp only [Connective.memberText, Connective.sign, Sign.text, ite_self,
    String.empty_append] at signOpens
  rw [Option.mem_unique signOpens opens, notSign, notNegated] at isSign
  cases isSign

/-- A member's sign can be told from its text. -/
theorem memberText_inj {left right : Clause}
    (same : connective.memberText left = connective.memberText right) :
    left.memberText = right.memberText := by
  have plusMinus (inner : Clause) (text : String) : (not inner).memberText ≠ "+" ++ text := by
    intro sameText
    have opens := head?_memberText_not inner
    rw [sameText, String.toList_append] at opens
    cases opens
  cases connective with
  | or => simpa [Connective.memberText, Connective.sign, Sign.text] using same
  | and =>
      cases leftNegated : left.isNegated <;> cases rightNegated : right.isNegated <;>
        simp only [Connective.memberText, Connective.sign, Sign.text, leftNegated, rightNegated,
          if_true, if_false, String.empty_append, Bool.false_eq_true] at same
      case false.false => exact (String.append_right_inj "+").mp same
      case false.true =>
          rcases exists_not_of_isNegated rightNegated with ⟨inner, rfl⟩
          exact absurd same.symm (plusMinus inner _)
      case true.false =>
          rcases exists_not_of_isNegated leftNegated with ⟨inner, rfl⟩
          exact absurd same (plusMinus inner _)
      case true.true => exact same

theorem map_outline_eq {lefts rights : List Clause}
    (same : connective.memberTexts lefts = connective.memberTexts rights)
    (membersAgree : ∀ left ∈ lefts, ∀ right ∈ rights, left.memberText = right.memberText →
      left.outline = right.outline) : lefts.map outline = rights.map outline := by
  induction lefts generalizing rights with
  | nil => cases rights <;> simp_all [Connective.memberTexts]
  | cons left lefts ih =>
      cases rights with
      | nil => simp [Connective.memberTexts] at same
      | cons right rights =>
          simp only [Connective.memberTexts, List.map_cons, List.cons.injEq] at same
          rw [List.map_cons, List.map_cons,
            membersAgree left (by simp) right (by simp) (memberText_inj same.1), ih same.2]
          intro left leftMem right rightMem
          exact membersAgree left (by simp [leftMem]) right (by simp [rightMem])

/-- Groups whose members have the same texts are of one kind, and so are the members. -/
theorem outline_eq_of_memberTexts_eq {connective' : Connective} {members' : List Clause}
    (readable : (connective.group members).IsReadable)
    (readable' : (connective'.group members').IsReadable)
    (membersAgree : ∀ left ∈ members, ∀ right ∈ members', left.memberText = right.memberText →
      left.outline = right.outline)
    (same : connective.memberTexts members = connective'.memberTexts members') :
    (connective.group members).outline = (connective'.group members').outline := by
  have legible := isLegible_group.mp readable.legible
  have legible' := isLegible_group.mp readable'.legible
  have positive := (everywhere_group.mp readable.positive_alternative).1
  have positive' := (everywhere_group.mp readable'.positive_alternative).1
  have sameConnective : connective = connective' := by
    cases connective <;> cases connective'
    case and.and | or.or => rfl
    case and.or => exact absurd same (memberTexts_and_ne_or legible' positive')
    case or.and => exact absurd same.symm (memberTexts_and_ne_or legible positive)
  subst connective'
  rw [outline_group, outline_group, map_outline_eq same membersAgree]

/-- The first character of a text tells the kind of the clause. -/
theorem sameKind {left right : Clause} (leftLegible : left.IsLegible)
    (rightLegible : right.IsLegible) (same : left.memberText = right.memberText) :
    left.isNegated = right.isNegated ∧ left.isComposite = right.isComposite := by
  rcases exists_opening leftLegible with ⟨char, opens, _, negated, composite⟩
  rcases exists_opening rightLegible with ⟨char', opens', _, negated', composite'⟩
  rw [same] at opens
  rw [← negated, ← negated', ← composite, ← composite', Option.mem_unique opens opens']
  exact ⟨rfl, rfl⟩

theorem outline_eq_of_memberText_eq {left right : Clause} (leftReadable : left.IsReadable)
    (rightReadable : right.IsReadable) (same : left.memberText = right.memberText) :
    left.outline = right.outline := by
  -- the induction is on one clause; its kind shows in the text, so the other clause is of that kind
  induction left generalizing right with
  | term leaf =>
      have kind := sameKind leftReadable.legible rightReadable.legible same
      cases right using group_induction with
      | term leaf' =>
          have legible := isLegible_term.mp leftReadable.legible
          have legible' := isLegible_term.mp rightReadable.legible
          rw [memberText_term legible, memberText_term legible'] at same
          rw [outline, outline, same]
      | group => simp at kind
      | not => simp at kind
  | group connective members ih =>
      have kind := sameKind leftReadable.legible rightReadable.legible same
      cases right using group_induction with
      | term => simp at kind
      | group connective' members' _ =>
          apply outline_eq_of_memberTexts_eq leftReadable rightReadable
          · intro left leftMem right rightMem
            exact ih left leftMem (isReadable_of_mem leftReadable leftMem)
              (isReadable_of_mem rightReadable rightMem)
          · rw [memberText_group, memberText_group, String.append_left_inj,
              String.append_right_inj, text_group, text_group] at same
            apply intercalate_inj_of_isSolid _ _ same
            · intro text textMem
              exact isSolid_of_mem_memberTexts (isLegible_group.mp leftReadable.legible) textMem
            · intro text textMem
              exact isSolid_of_mem_memberTexts (isLegible_group.mp rightReadable.legible) textMem
      | not => simp at kind
  | not inner ih =>
      have kind := sameKind leftReadable.legible rightReadable.legible same
      cases right using group_induction with
      | term => simp at kind
      | group => simp at kind
      | not inner' _ =>
          rw [memberText_not, memberText_not, String.append_right_inj] at same
          rw [outline, outline,
            ih (isReadable_not leftReadable) (isReadable_not rightReadable) same]

/-! ### Clauses that stand alone -/

/-- The texts that stand side by side in the text of a clause. -/
def pieces : Clause → List String
  | and members => Connective.and.memberTexts members
  | or members => Connective.or.memberTexts members
  | clause => [clause.memberText]

theorem pieces_group (connective : Connective) (members : List Clause) :
    (connective.group members).pieces = connective.memberTexts members := by
  cases connective <;> rfl

theorem text_eq_intercalate_pieces {clause : Clause} (legible : clause.IsLegible) :
    clause.text = " ".intercalate clause.pieces := by
  cases clause using group_induction with
  | term leaf => simp [pieces, text, memberText_term (isLegible_term.mp legible)]
  | group connective members _ => rw [text_group, pieces_group, sideBySide]
  | not inner _ => simp [pieces, text, memberText_not]

theorem isSolid_of_mem_pieces {clause : Clause} (legible : clause.IsLegible) {piece : String}
    (pieceMem : piece ∈ clause.pieces) : IsSolid piece := by
  cases clause using group_induction with
  | group connective members _ =>
      rw [pieces_group] at pieceMem
      exact isSolid_of_mem_memberTexts (isLegible_group.mp legible) pieceMem
  | _ =>
      rw [List.mem_singleton.mp pieceMem]
      exact isSolid_memberText legible

theorem pieces_eq_singleton {clause : Clause} (simple : clause.isComposite = false) :
    clause.pieces = [clause.memberText] := by
  cases clause using group_induction with
  | group => simp at simple
  | _ => rfl

theorem exists_group_of_isComposite {clause : Clause} (composite : clause.isComposite = true) :
    ∃ connective members, clause = Connective.group connective members := by
  cases clause using group_induction with
  | group connective members _ => exact ⟨connective, members, rfl⟩
  | _ => simp at composite

/-- A readable group has two pieces or more, and any other clause has one. -/
theorem isComposite_eq_decide {clause : Clause} (readable : clause.IsReadable) :
    clause.isComposite = decide (clause.pieces.length ≠ 1) := by
  cases composite : clause.isComposite with
  | false => simp [pieces_eq_singleton composite]
  | true =>
      rcases exists_group_of_isComposite composite with ⟨connective, members, rfl⟩
      have sized := hasTwoMembers_group.mp (everywhere_group.mp readable.two_members).1
      have several : members.length ≠ 1 := by omega
      simp [pieces_group, Connective.memberTexts, several]

theorem pieces_ne_nil {clause : Clause} (readable : clause.IsReadable) : clause.pieces ≠ [] := by
  cases composite : clause.isComposite with
  | false => simp [pieces_eq_singleton composite]
  | true =>
      rcases exists_group_of_isComposite composite with ⟨connective, members, rfl⟩
      have sized := hasTwoMembers_group.mp (everywhere_group.mp readable.two_members).1
      have someMember : members ≠ [] := List.ne_nil_of_length_pos (by omega)
      simpa [pieces_group, Connective.memberTexts] using someMember

/-- The pieces of a readable clause determine its outline. -/
theorem outline_eq_of_pieces_eq {left right : Clause} (leftReadable : left.IsReadable)
    (rightReadable : right.IsReadable) (same : left.pieces = right.pieces) :
    left.outline = right.outline := by
  have sameKind : left.isComposite = right.isComposite := by
    rw [isComposite_eq_decide leftReadable, isComposite_eq_decide rightReadable, same]
  cases kind : right.isComposite with
  | false =>
      rw [kind] at sameKind
      rw [pieces_eq_singleton sameKind, pieces_eq_singleton kind, List.singleton_inj] at same
      exact outline_eq_of_memberText_eq leftReadable rightReadable same
  | true =>
      rw [kind] at sameKind
      rcases exists_group_of_isComposite sameKind with ⟨connective, members, rfl⟩
      rcases exists_group_of_isComposite kind with ⟨connective', members', rfl⟩
      rw [pieces_group, pieces_group] at same
      apply outline_eq_of_memberTexts_eq leftReadable rightReadable _ same
      intro left leftMem right rightMem
      exact outline_eq_of_memberText_eq (isReadable_of_mem leftReadable leftMem)
        (isReadable_of_mem rightReadable rightMem)

end Clause

end ContentQuery
