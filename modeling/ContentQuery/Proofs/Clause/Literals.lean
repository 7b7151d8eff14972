import ContentQuery.Predicate.Basic
import ContentQuery.Proofs.Clause.Text

/-!
# Changes of literals

A clause keeps its shape when each of its literals is replaced by another one. The connectives of
predicates and normalization do not look at literals, so they commute with such a change, provided
the change keeps the zero of the presence guard. A change that keeps the texts of literals keeps the
texts of clauses.
-/

namespace ContentQuery

/-- The term with another literal in the place of its own. -/
def Term.mapLiteral (change : Literal → Literal) : Term → Term
  | equality field value => equality field (change value)
  | range field op bound => range field op (change bound)
  | leaf => leaf

namespace Clause

mutual

/-- The clause with another literal in the place of each of its own. -/
def mapLiterals (change : Literal → Literal) : Clause → Clause
  | term leaf => term (leaf.mapLiteral change)
  | and members => and (mapAllLiterals change members)
  | or members => or (mapAllLiterals change members)
  | not inner => not (inner.mapLiterals change)

/-- The clauses with another literal in the place of each of their own. -/
def mapAllLiterals (change : Literal → Literal) : List Clause → List Clause
  | [] => []
  | member :: members => member.mapLiterals change :: mapAllLiterals change members

end

variable {change : Literal → Literal} {connective : Connective} {members : List Clause}

theorem mapLiterals_group :
    (connective.group members).mapLiterals change =
      connective.group (members.map (mapLiterals change)) := by
  have mapAllLiterals_eq_map :
      mapAllLiterals change members = members.map (mapLiterals change) := by
    induction members with
    | nil => rfl
    | cons member members ih => rw [mapAllLiterals, ih, List.map_cons]
  cases connective <;> simp [Connective.group, mapLiterals, mapAllLiterals_eq_map]

@[simp]
theorem isNegated_mapLiterals (clause : Clause) :
    (clause.mapLiterals change).isNegated = clause.isNegated := by
  cases clause <;> simp [mapLiterals, isNegated]

@[simp]
theorem isGroupOf_mapLiterals (clause : Clause) :
    (clause.mapLiterals change).isGroupOf connective = clause.isGroupOf connective := by
  cases connective <;> cases clause <;> simp [mapLiterals, isGroupOf]

theorem isBoolean_mapLiterals (clause : Clause) :
    (clause.mapLiterals change).isBoolean = clause.isBoolean := by
  rcases clause with leaf | _ | _ | _
  · cases leaf <;> rfl
  all_goals simp [mapLiterals, isBoolean]

theorem negate_mapLiterals (clause : Clause) :
    (clause.mapLiterals change).negate = clause.negate.mapLiterals change := by
  rcases clause.negate_cases with
    ⟨inner, rfl, negates⟩ | ⟨field, value, rfl, negates⟩ | ⟨notNegated, notBoolean, negates⟩ <;>
      rw [negates]
  · rw [mapLiterals, negate]
  · rfl
  · rw [mapLiterals, negate_eq_not (by rw [isNegated_mapLiterals, notNegated])
      (by rw [isBoolean_mapLiterals, notBoolean])]

/-! ### Normalization -/

theorem collapse_map_mapLiterals :
    collapse connective.group (members.map (mapLiterals change)) =
      (collapse connective.group members).map (mapLiterals change) := by
  match members with
  | [] => rfl
  | [member] => rfl
  | first :: second :: rest =>
      exact congrArg some (@mapLiterals_group change connective (first :: second :: rest)).symm

theorem splice_map_mapLiterals (reduced : Option Clause) :
    connective.splice (reduced.map (mapLiterals change)) =
      (connective.splice reduced).map (mapLiterals change) := by
  cases reduced with
  | none => simp
  | some clause =>
      cases same : clause.isGroupOf connective with
      | true =>
          rcases exists_group_of_isGroupOf same with ⟨members, rfl⟩
          rw [Option.map_some, mapLiterals_group, splice_group, splice_group]
      | false =>
          have changed : (clause.mapLiterals change).isGroupOf connective = false := by simp [same]
          rw [Option.map_some, splice_some_of_isGroupOf_eq_false same,
            splice_some_of_isGroupOf_eq_false changed, List.map_singleton]

theorem reduce_mapLiterals (clause : Clause) :
    (clause.mapLiterals change).reduce = clause.reduce.map (mapLiterals change) := by
  induction clause with
  | term leaf => simp [mapLiterals, reduce]
  | group connective members ih =>
      rw [mapLiterals_group, reduce_group, reduce_group, ← collapse_map_mapLiterals,
        List.flatMap_map, List.map_flatMap]
      congr 1
      apply List.flatMap_congr
      intro member memberMem
      rw [ih member memberMem, splice_map_mapLiterals]
  | not inner ih =>
      rw [mapLiterals, reduce, reduce, ih, Option.map_map, Option.map_map]
      congr 1
      funext reduced
      exact negate_mapLiterals reduced

variable {guardField : String}

theorem mapLiterals_presenceGuard (keepsZero : change (.int 0) = .int 0) :
    (presenceGuard guardField).mapLiterals change = presenceGuard guardField := by
  rw [presenceGuard, mapLiterals, Term.mapLiteral, keepsZero]

theorem mapLiterals_and_presenceGuard (keepsZero : change (.int 0) = .int 0) (clause : Clause) :
    (and [clause, presenceGuard guardField]).mapLiterals change =
      and [clause.mapLiterals change, presenceGuard guardField] := by
  rw [mapLiterals, mapAllLiterals, mapAllLiterals, mapAllLiterals,
    mapLiterals_presenceGuard keepsZero]

theorem map_mapLiterals_guarded (keepsZero : change (.int 0) = .int 0) :
    (connective.guarded guardField members).map (mapLiterals change) =
      connective.guarded guardField (members.map (mapLiterals change)) := by
  cases connective with
  | and => simp [Connective.guarded, mapLiterals_presenceGuard keepsZero]
  | or =>
      rw [Connective.guarded, Connective.guarded, List.map_map, List.map_map]
      apply List.map_congr_left
      intro member _
      exact mapLiterals_and_presenceGuard keepsZero member

theorem all_isNegated_map_mapLiterals :
    (members.map (mapLiterals change)).all isNegated = members.all isNegated := by
  rw [List.all_map]
  congr 1
  funext member
  exact isNegated_mapLiterals member

theorem guardGroups_mapLiterals (keepsZero : change (.int 0) = .int 0) (clause : Clause) :
    (clause.mapLiterals change).guardGroups guardField =
      (clause.guardGroups guardField).mapLiterals change := by
  induction clause with
  | term leaf => simp [mapLiterals, guardGroups]
  | group connective members ih =>
      have guardedMembers : (members.map (mapLiterals change)).map (guardGroups guardField) =
          (members.map (guardGroups guardField)).map (mapLiterals change) := by
        rw [List.map_map, List.map_map]
        exact List.map_congr_left ih
      rw [mapLiterals_group, guardGroups_group, guardGroups_group, mapLiterals_group,
        all_isNegated_map_mapLiterals, guardedMembers, ← map_mapLiterals_guarded keepsZero]
      split <;> rfl
  | not inner ih => rw [mapLiterals, guardGroups, guardGroups, ih, mapLiterals]

theorem hasNegativeGroup_mapLiterals (clause : Clause) :
    (clause.mapLiterals change).hasNegativeGroup = clause.hasNegativeGroup := by
  induction clause with
  | term leaf => simp [mapLiterals, hasNegativeGroup]
  | group connective members ih =>
      have inMembers : (members.map (mapLiterals change)).any hasNegativeGroup =
          members.any hasNegativeGroup := by
        rw [Bool.eq_iff_iff, List.any_map, List.any_eq_true, List.any_eq_true]
        apply exists_congr
        intro member
        apply and_congr_right
        intro memberMem
        rw [Function.comp_apply, ih member memberMem]
      rw [mapLiterals_group, hasNegativeGroup_group, hasNegativeGroup_group,
        all_isNegated_map_mapLiterals, inMembers]
  | not inner ih => rw [mapLiterals, hasNegativeGroup, hasNegativeGroup, ih]

/-- The normal form with another literal in the place of each of its own. -/
def Normalized.mapLiterals (change : Literal → Literal) (normalized : Normalized) : Normalized :=
  { normalized with clause := normalized.clause.mapLiterals change }

/-- Normalization does not look at literals. -/
theorem normalize_mapLiterals (keepsZero : change (.int 0) = .int 0) (clause : Clause) :
    (clause.mapLiterals change).normalize guardField =
      (clause.normalize guardField).map (Normalized.mapLiterals change) := by
  rw [normalize, normalize, reduce_mapLiterals, Option.map_map, Option.map_map]
  congr 1
  funext reduced
  simp only [Function.comp_apply, guardGroups_mapLiterals keepsZero, isNegated_mapLiterals,
    hasNegativeGroup_mapLiterals, Normalized.mapLiterals]
  split
  · simp only [mapLiterals_and_presenceGuard keepsZero]
  · rfl

/-! ### Texts -/

section Text

variable (keepsText : ∀ literal, (change literal).render = literal.render)

include keepsText

theorem text_mapLiteral (leaf : Term) : (leaf.mapLiteral change).text = leaf.text := by
  cases leaf <;> simp [Term.mapLiteral, Term.text, keepsText]

omit keepsText in
theorem text_mapLiterals_group
    (membersKeep : ∀ member ∈ members, (member.mapLiterals change).memberText = member.memberText) :
    ((connective.group members).mapLiterals change).text = (connective.group members).text := by
  rw [mapLiterals_group, text_group, text_group, Connective.memberTexts, Connective.memberTexts,
    List.map_map]
  congr 1
  apply List.map_congr_left
  intro member memberMem
  rw [Function.comp_apply, Connective.memberText, Connective.memberText, isNegated_mapLiterals,
    membersKeep member memberMem]

theorem memberText_mapLiterals (clause : Clause) :
    (clause.mapLiterals change).memberText = clause.memberText := by
  induction clause with
  | term leaf =>
      have sameFragment :
          (leaf.mapLiteral change).isCompositeFragment = leaf.isCompositeFragment := by
        cases leaf <;> rfl
      simp only [mapLiterals, memberText, sameFragment, text_mapLiteral keepsText]
  | group connective members ih =>
      rw [memberText_group, ← text_mapLiterals_group ih, mapLiterals_group, memberText_group]
  | not inner ih => rw [mapLiterals, memberText_not, memberText_not, ih]

/-- A change that keeps the texts of literals keeps the texts of clauses. -/
theorem text_mapLiterals (clause : Clause) : (clause.mapLiterals change).text = clause.text := by
  induction clause with
  | term leaf => rw [mapLiterals, text, text, text_mapLiteral keepsText]
  | group connective members _ =>
      exact text_mapLiterals_group fun member _ => memberText_mapLiterals keepsText member
  | not inner _ => rw [mapLiterals, text, text, memberText_mapLiterals keepsText]

end Text

/-! ### Printing -/

theorem terms_mapLiterals (clause : Clause) :
    (clause.mapLiterals change).terms = clause.terms.map (Term.mapLiteral change) := by
  induction clause with
  | term leaf => rfl
  | group connective members ih =>
      rw [mapLiterals_group, terms_group, terms_group, List.flatMap_map, List.map_flatMap]
      exact List.flatMap_congr ih
  | not inner ih => exact ih

/-- A change that keeps literals printable keeps clauses printable. -/
theorem isPrintable_mapLiterals
    (keepsPrintable : ∀ literal, (change literal).isPrintable = literal.isPrintable)
    (clause : Clause) : (clause.mapLiterals change).isPrintable = clause.isPrintable := by
  have samePrintable (leaf : Term) : (leaf.mapLiteral change).isPrintable = leaf.isPrintable := by
    cases leaf <;> simp [Term.mapLiteral, Term.isPrintable, keepsPrintable]
  simp only [isPrintable, terms_mapLiterals, List.all_map, Function.comp_def, samePrintable]

end Clause

/-! ### Predicates -/

namespace Predicate

variable {change : Literal → Literal}

/-- The predicate with another literal in the place of each of its own. -/
def mapLiterals (change : Literal → Literal) : Predicate → Predicate
  | constant holds => constant holds
  | clause inner => clause (inner.mapLiterals change)

theorem and_mapLiterals (left right : Predicate) :
    (left.mapLiterals change).and (right.mapLiterals change) =
      (left.and right).mapLiterals change := by
  rcases left with (_ | _) | left <;> rcases right with (_ | _) | right <;> rfl

theorem or_mapLiterals (left right : Predicate) :
    (left.mapLiterals change).or (right.mapLiterals change) =
      (left.or right).mapLiterals change := by
  rcases left with (_ | _) | left <;> rcases right with (_ | _) | right <;> rfl

theorem not_mapLiterals (inner : Predicate) :
    (inner.mapLiterals change).not = inner.not.mapLiterals change := by
  cases inner with
  | constant holds => rfl
  | clause inner => exact congrArg clause inner.negate_mapLiterals

theorem choose_mapLiterals (test ifTrue ifFalse : Predicate) :
    (test.mapLiterals change).choose (ifTrue.mapLiterals change) (ifFalse.mapLiterals change) =
      (test.choose ifTrue ifFalse).mapLiterals change := by
  rw [choose, choose, not_mapLiterals, and_mapLiterals, and_mapLiterals, or_mapLiterals]

end Predicate

end ContentQuery
