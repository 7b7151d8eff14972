import ContentQuery.Proofs.Clause.Connective
import Mathlib.Data.List.Basic

/-!
# Canonical clauses

Normal forms are characterized by the shape of their groups and negations alone. The invariant of
the first pass is `Clause.IsReduced`; the second pass keeps it and gives every group a member that
is not negated (`Clause.IsGuarded`), and the last guard turns a guarded clause into a canonical one.

The main statements are that every normal form is canonical, and that the canonical clauses are
exactly the clauses that normalization leaves alone.
-/

namespace ContentQuery

namespace Clause

/-- A group has two members or more. -/
def HasTwoMembers : Clause → Prop
  | and members | or members => 2 ≤ members.length
  | _ => True

/-- No member of a group is a group of the same kind. -/
def IsFlat : Clause → Prop
  | and members => ∀ member ∈ members, member.isGroupOf .and = false
  | or members => ∀ member ∈ members, member.isGroupOf .or = false
  | _ => True

/-- A negation stands over a clause whose negation cannot be resolved. -/
def IsResolved : Clause → Prop
  | not inner => inner.isNegated = false ∧ inner.isBoolean = false
  | _ => True

/-- Some member of a group is not negated. -/
def HasPositiveMember : Clause → Prop
  | and members | or members => ∃ member ∈ members, member.isNegated = false
  | _ => True

/-- What the first pass of normalization establishes. -/
structure IsReduced (clause : Clause) : Prop where
  two_members : clause.Everywhere HasTwoMembers
  flat : clause.Everywhere IsFlat
  resolved : clause.Everywhere IsResolved

/-- What the second pass of normalization adds. -/
structure IsGuarded (clause : Clause) : Prop extends IsReduced clause where
  positive_members : clause.Everywhere HasPositiveMember

/-- What normalization establishes. -/
structure IsCanonical (clause : Clause) : Prop extends IsGuarded clause where
  not_negated : clause.isNegated = false

/-! ### The invariants by the shape of the clause -/

theorem isReduced_term (leaf : Term) : (term leaf).IsReduced := by
  constructor <;> simp [everywhere_term, HasTwoMembers, IsFlat, IsResolved]

theorem isReduced_not {inner : Clause} :
    (not inner).IsReduced ↔
      inner.isNegated = false ∧ inner.isBoolean = false ∧ inner.IsReduced := by
  constructor
  · rintro ⟨sized, flat, resolved⟩
    rw [everywhere_not] at sized flat resolved
    exact ⟨resolved.1.1, resolved.1.2, sized.2, flat.2, resolved.2⟩
  · rintro ⟨notNegated, notBoolean, sized, flat, resolved⟩
    constructor
    · exact everywhere_not.mpr ⟨trivial, sized⟩
    · exact everywhere_not.mpr ⟨trivial, flat⟩
    · exact everywhere_not.mpr ⟨⟨notNegated, notBoolean⟩, resolved⟩

variable {connective : Connective} {members : List Clause}

@[simp]
theorem hasTwoMembers_group : (connective.group members).HasTwoMembers ↔ 2 ≤ members.length := by
  cases connective <;> rfl

@[simp]
theorem isFlat_group :
    (connective.group members).IsFlat ↔
      ∀ member ∈ members, member.isGroupOf connective = false := by
  cases connective <;> rfl

@[simp]
theorem isResolved_group : (connective.group members).IsResolved := by
  cases connective <;> trivial

@[simp]
theorem hasPositiveMember_group :
    (connective.group members).HasPositiveMember ↔
      ∃ member ∈ members, member.isNegated = false := by
  cases connective <;> rfl

theorem isReduced_group :
    (connective.group members).IsReduced ↔
      2 ≤ members.length ∧ (∀ member ∈ members, member.isGroupOf connective = false) ∧
        ∀ member ∈ members, member.IsReduced := by
  constructor
  · rintro ⟨sized, flat, resolved⟩
    rw [everywhere_group] at sized flat resolved
    refine ⟨hasTwoMembers_group.mp sized.1, isFlat_group.mp flat.1, ?_⟩
    intro member memberMem
    exact ⟨sized.2 member memberMem, flat.2 member memberMem, resolved.2 member memberMem⟩
  · rintro ⟨sized, flat, reduced⟩
    constructor
    · exact everywhere_group.mpr
        ⟨hasTwoMembers_group.mpr sized, fun member memberMem => (reduced member memberMem).1⟩
    · exact everywhere_group.mpr
        ⟨isFlat_group.mpr flat, fun member memberMem => (reduced member memberMem).2⟩
    · exact everywhere_group.mpr
        ⟨isResolved_group, fun member memberMem => (reduced member memberMem).3⟩

theorem isGuarded_term (leaf : Term) : (term leaf).IsGuarded :=
  ⟨isReduced_term leaf, everywhere_term.mpr trivial⟩

theorem isGuarded_not {inner : Clause} :
    (not inner).IsGuarded ↔
      inner.isNegated = false ∧ inner.isBoolean = false ∧ inner.IsGuarded := by
  constructor
  · rintro ⟨reduced, positive⟩
    rcases isReduced_not.mp reduced with ⟨notNegated, notBoolean, innerReduced⟩
    exact ⟨notNegated, notBoolean, innerReduced, (everywhere_not.mp positive).2⟩
  · rintro ⟨notNegated, notBoolean, reduced, positive⟩
    exact ⟨isReduced_not.mpr ⟨notNegated, notBoolean, reduced⟩,
      everywhere_not.mpr ⟨trivial, positive⟩⟩

theorem isGuarded_group :
    (connective.group members).IsGuarded ↔
      2 ≤ members.length ∧ (∀ member ∈ members, member.isGroupOf connective = false) ∧
        (∃ member ∈ members, member.isNegated = false) ∧
          ∀ member ∈ members, member.IsGuarded := by
  constructor
  · rintro ⟨reduced, positive⟩
    rcases isReduced_group.mp reduced with ⟨sized, flat, membersReduced⟩
    rw [everywhere_group] at positive
    refine ⟨sized, flat, hasPositiveMember_group.mp positive.1, ?_⟩
    intro member memberMem
    exact ⟨membersReduced member memberMem, positive.2 member memberMem⟩
  · rintro ⟨sized, flat, positive, guarded⟩
    constructor
    · exact isReduced_group.mpr
        ⟨sized, flat, fun member memberMem => (guarded member memberMem).toIsReduced⟩
    · exact everywhere_group.mpr
        ⟨hasPositiveMember_group.mpr positive,
          fun member memberMem => (guarded member memberMem).positive_members⟩

theorem isFull_of_hasTwoMembers {clause : Clause} (sized : clause.Everywhere HasTwoMembers) :
    clause.IsFull := by
  refine everywhere_of_parts (fun _ => trivial) ?_ (fun _ _ => trivial)
  intro connective members groupMem
  have twoMembers := hasTwoMembers_group.mp (sized _ groupMem)
  rw [hasMember_group, ← List.length_pos_iff]
  omega

/-! ### The first pass -/

/-- What a reduced clause adds to a group is reduced and brings no group of the same kind. -/
theorem isReduced_of_mem_splice {clause member : Clause} (reduced : clause.IsReduced)
    (memberMem : member ∈ connective.splice (some clause)) :
    member.IsReduced ∧ member.isGroupOf connective = false := by
  cases same : clause.isGroupOf connective with
  | true =>
      rcases exists_group_of_isGroupOf same with ⟨inner, rfl⟩
      rw [splice_group] at memberMem
      rcases isReduced_group.mp reduced with ⟨_, flat, innerReduced⟩
      exact ⟨innerReduced member memberMem, flat member memberMem⟩
  | false =>
      rw [splice_some_of_isGroupOf_eq_false same, List.mem_singleton] at memberMem
      subst member
      exact ⟨reduced, same⟩

theorem collapse_eq_some_group (sized : 2 ≤ members.length) :
    collapse connective.group members = some (connective.group members) := by
  cases members with
  | nil => simp at sized
  | cons first rest =>
      cases rest with
      | nil => simp at sized
      | cons second rest => rfl

theorem isReduced_of_collapse {reduced : Clause}
    (membersReduced : ∀ member ∈ members,
      member.IsReduced ∧ member.isGroupOf connective = false)
    (collapses : collapse connective.group members = some reduced) : reduced.IsReduced := by
  cases members with
  | nil => simp [collapse] at collapses
  | cons first rest =>
      cases rest with
      | nil =>
          simp only [collapse, Option.some.injEq] at collapses
          subst reduced
          exact (membersReduced first (by simp)).1
      | cons second rest =>
          simp only [collapse, Option.some.injEq] at collapses
          subst reduced
          refine isReduced_group.mpr ⟨by simp, ?_, ?_⟩
          · exact fun member memberMem => (membersReduced member memberMem).2
          · exact fun member memberMem => (membersReduced member memberMem).1

theorem isReduced_negate {clause : Clause} (reduced : clause.IsReduced) :
    clause.negate.IsReduced := by
  rcases clause.negate_cases with
    ⟨inner, rfl, negates⟩ | ⟨field, value, _, negates⟩ | ⟨notNegated, notBoolean, negates⟩ <;>
    rw [negates]
  · exact (isReduced_not.mp reduced).2.2
  · exact isReduced_term _
  · exact isReduced_not.mpr ⟨notNegated, notBoolean, reduced⟩

/-- The first pass establishes its invariant on every clause. -/
theorem isReduced_of_reduce {clause reduced : Clause} (reduces : clause.reduce = some reduced) :
    reduced.IsReduced := by
  induction clause generalizing reduced with
  | term leaf =>
      cases reduces
      exact isReduced_term leaf
  | group connective members ih =>
      rw [reduce_group] at reduces
      refine isReduced_of_collapse ?_ reduces
      intro member memberMem
      rcases List.mem_flatMap.mp memberMem with ⟨source, sourceMem, spliced⟩
      cases sourceReduces : source.reduce with
      | none => simp [sourceReduces] at spliced
      | some part =>
          rw [sourceReduces] at spliced
          exact isReduced_of_mem_splice (ih source sourceMem sourceReduces) spliced
  | not inner ih =>
      simp only [reduce, Option.map_eq_some_iff] at reduces
      rcases reduces with ⟨innerReduced, innerReduces, rfl⟩
      exact isReduced_negate (ih innerReduces)

theorem reduce_eq_some_self {clause : Clause} (reduced : clause.IsReduced) :
    clause.reduce = some clause := by
  induction clause with
  | term leaf => simp [reduce]
  | group connective members ih =>
      rcases isReduced_group.mp reduced with ⟨sized, flat, membersReduced⟩
      have spliced : members.flatMap (fun member => connective.splice member.reduce) =
          members.flatMap fun member => [member] := by
        apply List.flatMap_congr
        intro member memberMem
        rw [ih member memberMem (membersReduced member memberMem)]
        exact splice_some_of_isGroupOf_eq_false (flat member memberMem)
      rw [reduce_group, spliced, List.flatMap_singleton']
      exact collapse_eq_some_group sized
  | not inner ih =>
      rcases isReduced_not.mp reduced with ⟨notNegated, notBoolean, innerReduced⟩
      simp [reduce, ih innerReduced, negate_eq_not notNegated notBoolean]

/-! ### The second pass -/

variable (guardField : String)

@[simp]
theorem isBoolean_guardGroups (clause : Clause) :
    (clause.guardGroups guardField).isBoolean = clause.isBoolean := by
  cases clause <;> simp [guardGroups, isBoolean]

@[simp]
theorem isGroupOf_guardGroups (connective : Connective) (clause : Clause) :
    (clause.guardGroups guardField).isGroupOf connective = clause.isGroupOf connective := by
  cases clause <;> cases connective <;> simp [guardGroups, isGroupOf]

theorem isGroupOf_eq_false_of_isNegated {clause : Clause} (negated : clause.isNegated = true) :
    clause.isGroupOf connective = false := by
  rcases exists_not_of_isNegated negated with ⟨inner, rfl⟩
  exact isGroupOf_not connective inner

/-- A negated clause beside the guard. -/
theorem isGuarded_and_presenceGuard {clause : Clause} (negated : clause.isNegated = true)
    (guarded : clause.IsGuarded) : (and [clause, presenceGuard guardField]).IsGuarded := by
  have guardIsGuarded : (presenceGuard guardField).IsGuarded := isGuarded_term _
  refine (@isGuarded_group .and _).mpr ⟨by simp, ?_, ?_, ?_⟩
  · simp [isGroupOf_eq_false_of_isNegated negated, presenceGuard]
  · exact ⟨presenceGuard guardField, by simp, rfl⟩
  · simp [guarded, guardIsGuarded]

/-- The guards that a group of negations gets make it positive and keep it flat: in a disjunction
they turn every alternative into a conjunction, in a conjunction they are one more term. -/
theorem isGuarded_group_guarded (sized : 2 ≤ members.length)
    (negated : ∀ member ∈ members, member.isNegated = true)
    (guarded : ∀ member ∈ members, member.IsGuarded) :
    (connective.group (connective.guarded guardField members)).IsGuarded := by
  have guardIsGuarded : (presenceGuard guardField).IsGuarded := isGuarded_term _
  cases connective with
  | and =>
      refine isGuarded_group.mpr ⟨by simp [Connective.guarded]; omega, ?_, ?_, ?_⟩
      · intro member memberMem
        rcases List.mem_append.mp memberMem with memberMem | memberMem
        · exact isGroupOf_eq_false_of_isNegated (negated member memberMem)
        · rw [List.mem_singleton.mp memberMem]
          exact isGroupOf_term _ _
      · exact ⟨presenceGuard guardField, by simp [Connective.guarded], rfl⟩
      · intro member memberMem
        rcases List.mem_append.mp memberMem with memberMem | memberMem
        · exact guarded member memberMem
        · rw [List.mem_singleton.mp memberMem]
          exact guardIsGuarded
  | or =>
      refine isGuarded_group.mpr ⟨by simpa [Connective.guarded] using sized, ?_, ?_, ?_⟩
      · intro member memberMem
        rcases List.mem_map.mp memberMem with ⟨source, sourceMem, rfl⟩
        rfl
      · rcases List.exists_mem_of_length_pos (show 0 < members.length by omega) with
          ⟨member, memberMem⟩
        exact ⟨_, List.mem_map_of_mem memberMem, rfl⟩
      · intro member memberMem
        rcases List.mem_map.mp memberMem with ⟨source, sourceMem, rfl⟩
        exact isGuarded_and_presenceGuard guardField (negated source sourceMem)
          (guarded source sourceMem)

/-- The second pass keeps the invariant of the first and leaves no group of negations. -/
theorem isGuarded_guardGroups {clause : Clause} (reduced : clause.IsReduced) :
    (clause.guardGroups guardField).IsGuarded := by
  induction clause with
  | term leaf => exact isGuarded_term leaf
  | group connective members ih =>
      rcases isReduced_group.mp reduced with ⟨sized, flat, membersReduced⟩
      have guarded : ∀ member ∈ members.map (guardGroups guardField), member.IsGuarded := by
        intro member memberMem
        rcases List.mem_map.mp memberMem with ⟨source, sourceMem, rfl⟩
        exact ih source sourceMem (membersReduced source sourceMem)
      rw [guardGroups_group]
      cases negative : members.all isNegated with
      | true =>
          rw [if_pos rfl]
          apply isGuarded_group_guarded guardField (by simpa using sized) ?_ guarded
          simpa using negative
      | false =>
          rw [if_neg (by simp)]
          refine isGuarded_group.mpr ⟨by simpa using sized, ?_, ?_, guarded⟩
          · simpa using flat
          · simpa using negative
  | not inner ih =>
      rcases isReduced_not.mp reduced with ⟨notNegated, notBoolean, innerReduced⟩
      simp only [guardGroups]
      refine isGuarded_not.mpr ⟨?_, ?_, ih innerReduced⟩
      · rw [isNegated_guardGroups]
        exact notNegated
      · rw [isBoolean_guardGroups]
        exact notBoolean

theorem not_all_isNegated (positive : ∃ member ∈ members, member.isNegated = false) :
    members.all isNegated = false := by
  simpa using positive

theorem guardGroups_eq_self {clause : Clause} (positive : clause.Everywhere HasPositiveMember) :
    clause.guardGroups guardField = clause := by
  induction clause with
  | term leaf => simp [guardGroups]
  | group connective members ih =>
      rw [everywhere_group] at positive
      have unchanged : members.map (guardGroups guardField) = members := by
        conv_rhs => rw [← List.map_id members]
        apply List.map_congr_left
        intro member memberMem
        exact ih member memberMem (positive.2 member memberMem)
      rw [guardGroups_group, not_all_isNegated (hasPositiveMember_group.mp positive.1), unchanged]
      simp
  | not inner ih =>
      rw [everywhere_not] at positive
      simp [guardGroups, ih positive.2]

theorem hasNegativeGroup_eq_false {clause : Clause}
    (positive : clause.Everywhere HasPositiveMember) : clause.hasNegativeGroup = false := by
  induction clause with
  | term leaf => simp [hasNegativeGroup]
  | group connective members ih =>
      rw [everywhere_group] at positive
      have membersPositive : members.any hasNegativeGroup = false := by
        simp only [List.any_eq_false, Bool.not_eq_true]
        exact fun member memberMem => ih member memberMem (positive.2 member memberMem)
      rw [hasNegativeGroup_group, not_all_isNegated (hasPositiveMember_group.mp positive.1),
        membersPositive]
      rfl
  | not inner ih =>
      rw [everywhere_not] at positive
      simp [hasNegativeGroup, ih positive.2]

/-! ### Normal forms -/

theorem isCanonical_normalize {clause : Clause} {normalized : Normalized}
    (normalizes : clause.normalize guardField = some normalized) :
    normalized.clause.IsCanonical := by
  simp only [normalize, Option.map_eq_some_iff] at normalizes
  rcases normalizes with ⟨reduced, reduces, rfl⟩
  have guarded := isGuarded_guardGroups guardField (isReduced_of_reduce reduces)
  cases negated : (reduced.guardGroups guardField).isNegated with
  | true => exact ⟨isGuarded_and_presenceGuard guardField negated guarded, rfl⟩
  | false => exact ⟨guarded, negated⟩

theorem normalize_eq_some_self {clause : Clause} (canonical : clause.IsCanonical) :
    clause.normalize guardField = some ⟨clause, false⟩ := by
  have positive := canonical.positive_members
  simp [normalize, reduce_eq_some_self canonical.toIsReduced,
    guardGroups_eq_self guardField positive, hasNegativeGroup_eq_false positive,
    canonical.not_negated]

theorem isCanonical_iff_parts {clause : Clause} :
    clause.IsCanonical ↔
      clause.isNegated = false ∧
        (∀ connective members, Connective.group connective members ∈ clause.parts →
          2 ≤ members.length ∧ (∀ member ∈ members, member.isGroupOf connective = false) ∧
            ∃ member ∈ members, member.isNegated = false) ∧
        ∀ inner, not inner ∈ clause.parts → inner.isNegated = false ∧ inner.isBoolean = false := by
  constructor
  · rintro ⟨⟨⟨sized, flat, resolved⟩, positive⟩, notNegated⟩
    refine ⟨notNegated, ?_, ?_⟩
    · intro connective members groupMem
      exact ⟨hasTwoMembers_group.mp (sized _ groupMem), isFlat_group.mp (flat _ groupMem),
        hasPositiveMember_group.mp (positive _ groupMem)⟩
    · intro inner notMem
      exact resolved _ notMem
  · rintro ⟨notNegated, groups, negations⟩
    refine ⟨⟨⟨?_, ?_, ?_⟩, ?_⟩, notNegated⟩
    · refine everywhere_of_parts (fun _ => trivial) ?_ (fun _ _ => trivial)
      intro connective members groupMem
      exact hasTwoMembers_group.mpr (groups connective members groupMem).1
    · refine everywhere_of_parts (fun _ => trivial) ?_ (fun _ _ => trivial)
      intro connective members groupMem
      exact isFlat_group.mpr (groups connective members groupMem).2.1
    · exact everywhere_of_parts (fun _ => trivial) (fun _ _ _ => isResolved_group) negations
    · refine everywhere_of_parts (fun _ => trivial) ?_ (fun _ _ => trivial)
      intro connective members groupMem
      exact hasPositiveMember_group.mpr (groups connective members groupMem).2.2

/-- Every normal form is canonical: it is no negation, its groups have two members or more, none of
them a group of the same kind and some of them not negated, and its negations stand over clauses
that are neither negations nor boolean terms. -/
theorem parts_of_normalize {clause : Clause} {normalized : Normalized}
    (normalizes : clause.normalize guardField = some normalized) :
    normalized.clause.isNegated = false ∧
      (∀ connective members, Connective.group connective members ∈ normalized.clause.parts →
        2 ≤ members.length ∧ (∀ member ∈ members, member.isGroupOf connective = false) ∧
          ∃ member ∈ members, member.isNegated = false) ∧
      ∀ inner, not inner ∈ normalized.clause.parts →
        inner.isNegated = false ∧ inner.isBoolean = false :=
  isCanonical_iff_parts.mp (isCanonical_normalize guardField normalizes)

/-- A disjunction of negations, one of them over a conjunction of negations, gets three guards. -/
theorem parts_of_normalize_negations :
    ∃ normalized, (or [not (Term.reference "A" 1),
        not (and [not (Term.reference "B" 2), not (Term.reference "C" 3)])]).normalize "Id" =
          some normalized ∧
      normalized.clause.isNegated = false ∧
      (∀ connective members, Connective.group connective members ∈ normalized.clause.parts →
        2 ≤ members.length ∧ (∀ member ∈ members, member.isGroupOf connective = false) ∧
          ∃ member ∈ members, member.isNegated = false) ∧
      ∀ inner, not inner ∈ normalized.clause.parts →
        inner.isNegated = false ∧ inner.isBoolean = false := by
  have normalizes : (or [not (Term.reference "A" 1),
      not (and [not (Term.reference "B" 2), not (Term.reference "C" 3)])]).normalize "Id" =
        some ⟨or [and [not (Term.reference "A" 1), presenceGuard "Id"],
          and [not (and [not (Term.reference "B" 2), not (Term.reference "C" 3),
            presenceGuard "Id"]), presenceGuard "Id"]], true⟩ := rfl
  exact ⟨_, normalizes, parts_of_normalize "Id" normalizes⟩

/-- The canonical clauses are the ones that normalization leaves alone, without a guard; so a normal
form is its own normal form. -/
theorem normalize_eq_some_self_iff :
    (∀ clause : Clause,
      clause.normalize guardField = some ⟨clause, false⟩ ↔ clause.IsCanonical) ∧
    ∀ (clause : Clause) (normalized : Normalized),
      clause.normalize guardField = some normalized →
        normalized.clause.normalize guardField = some ⟨normalized.clause, false⟩ := by
  constructor
  · intro clause
    constructor
    · intro fixed
      exact isCanonical_normalize guardField fixed
    · exact normalize_eq_some_self guardField
  · intro clause normalized normalizes
    exact normalize_eq_some_self guardField (isCanonical_normalize guardField normalizes)

/-- The guards of a disjunction of two negations are found again by a second normalization. -/
theorem normalize_eq_some_self_disjunction :
    ∃ normalized, (or [not (Term.reference "A" 1), not (Term.reference "B" 2)]).normalize "Id" =
        some normalized ∧
      normalized.clause.normalize "Id" = some ⟨normalized.clause, false⟩ := by
  have normalizes :
      (or [not (Term.reference "A" 1), not (Term.reference "B" 2)]).normalize "Id" =
        some ⟨or [and [not (Term.reference "A" 1), presenceGuard "Id"],
          and [not (Term.reference "B" 2), presenceGuard "Id"]], true⟩ := rfl
  exact ⟨_, normalizes, (normalize_eq_some_self_iff "Id").2 _ _ normalizes⟩

end Clause

end ContentQuery
