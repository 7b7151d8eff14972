import ContentQuery.Clause.Normal

/-!
# Groups by connective

Conjunctions and disjunctions differ only in how their members combine. This file names the two
kinds of groups by a `Connective`, gives the functions on clauses by one equation for groups of both
kinds, and gives the induction on clauses whose hypothesis speaks of every member of a group.
-/

namespace ContentQuery

/-- The two ways to combine clauses in a group. -/
inductive Connective where
  | and
  | or
deriving DecidableEq, Repr

namespace Connective

/-- The group of the members. -/
def group : Connective → List Clause → Clause
  | and => .and
  | or => .or

/-- The truth table of a group of two. -/
def join : Connective → Bool → Bool → Bool
  | and => Bool.and
  | or => Bool.or

/-- The truth value of a group whose members have the given truth values. -/
def combine : Connective → List Bool → Bool
  | and, values => values.all id
  | or, values => values.any id

/-- What a reduced member adds to a group. -/
def splice : Connective → Option Clause → List Clause
  | and => Clause.asConjuncts
  | or => Clause.asDisjuncts

/-- The members of a group of negations after the guards were added. -/
def guarded (guardField : String) : Connective → List Clause → List Clause
  | and, members => members ++ [.presenceGuard guardField]
  | or, members => members.map fun member => .and [member, .presenceGuard guardField]

theorem combine_cons (connective : Connective) (value : Bool) (values : List Bool) :
    connective.combine (value :: values) = connective.join value (connective.combine values) := by
  cases connective <;> simp [combine, join]

theorem combine_append (connective : Connective) (front back : List Bool) :
    connective.combine (front ++ back) =
      connective.join (connective.combine front) (connective.combine back) := by
  cases connective <;> simp [combine, join]

@[simp]
theorem combine_singleton (connective : Connective) (value : Bool) :
    connective.combine [value] = value := by
  cases connective <;> simp [combine]

end Connective

namespace Clause

/-- Induction on clauses. A group may assume the claim for each of its members. -/
@[elab_as_elim, induction_eliminator]
theorem group_induction {motive : Clause → Prop}
    (term : ∀ leaf, motive (.term leaf))
    (group : ∀ (connective : Connective) (members : List Clause),
      (∀ member ∈ members, motive member) → motive (connective.group members))
    (not : ∀ inner, motive inner → motive (.not inner)) (clause : Clause) : motive clause := by
  apply @Clause.rec motive fun members => ∀ member ∈ members, motive member
  · exact term
  · exact group .and
  · exact group .or
  · exact not
  · intro member memberMem
    simp at memberMem
  · intro head tail headHolds tailHolds member memberMem
    rcases List.mem_cons.mp memberMem with rfl | memberMem
    · exact headHolds
    · exact tailHolds member memberMem

/-- The clause is a group of the given kind. -/
def isGroupOf : Connective → Clause → Bool
  | .and, and _ | .or, or _ => true
  | _, _ => false

/-- The clause is a boolean term. -/
def isBoolean : Clause → Bool
  | term (.boolean _ _) => true
  | _ => false

@[simp]
theorem isGroupOf_term (kind : Connective) (leaf : Term) :
    (term leaf).isGroupOf kind = false := by
  cases kind <;> rfl

@[simp]
theorem isGroupOf_not (kind : Connective) (inner : Clause) :
    (not inner).isGroupOf kind = false := by
  cases kind <;> rfl

theorem exists_group_of_isGroupOf {kind : Connective} {clause : Clause}
    (grouped : clause.isGroupOf kind = true) : ∃ members, clause = kind.group members := by
  cases kind <;> cases clause <;> simp_all [isGroupOf, Connective.group]

theorem exists_not_of_isNegated {clause : Clause} (negated : clause.isNegated = true) :
    ∃ inner, clause = not inner := by
  cases clause <;> simp_all [isNegated]

theorem negate_eq_not {clause : Clause} (notNegated : clause.isNegated = false)
    (notBoolean : clause.isBoolean = false) : clause.negate = not clause := by
  simp only [negate]
  split <;> simp_all [isNegated, isBoolean]

/-- Negations lose their sign, boolean terms change their value, and other clauses are negated. -/
theorem negate_cases (clause : Clause) :
    (∃ inner, clause = not inner ∧ clause.negate = inner) ∨
      (∃ field value, clause = term (.boolean field value) ∧
        clause.negate = term (.boolean field !value)) ∨
      (clause.isNegated = false ∧ clause.isBoolean = false ∧ clause.negate = not clause) := by
  cases negated : clause.isNegated with
  | true =>
      rcases exists_not_of_isNegated negated with ⟨inner, rfl⟩
      exact .inl ⟨inner, rfl, rfl⟩
  | false =>
      cases boolean : clause.isBoolean with
      | true =>
          simp only [isBoolean] at boolean
          split at boolean
          · exact .inr (.inl ⟨_, _, rfl, rfl⟩)
          · cases boolean
      | false => exact .inr (.inr ⟨rfl, rfl, negate_eq_not negated boolean⟩)

/-! ### Normalization of groups -/

theorem reduceConjuncts_eq_flatMap (members : List Clause) :
    reduceConjuncts members = members.flatMap fun member => asConjuncts member.reduce := by
  induction members with
  | nil => simp [reduceConjuncts]
  | cons member members ih => simp [reduceConjuncts, ih]

theorem reduceDisjuncts_eq_flatMap (members : List Clause) :
    reduceDisjuncts members = members.flatMap fun member => asDisjuncts member.reduce := by
  induction members with
  | nil => simp [reduceDisjuncts]
  | cons member members ih => simp [reduceDisjuncts, ih]

theorem reduce_group (connective : Connective) (members : List Clause) :
    (connective.group members).reduce =
      collapse connective.group
        (members.flatMap fun member => connective.splice member.reduce) := by
  cases connective with
  | and => simp [Connective.group, Connective.splice, reduce, reduceConjuncts_eq_flatMap]
  | or => simp [Connective.group, Connective.splice, reduce, reduceDisjuncts_eq_flatMap]

theorem splice_some_of_isGroupOf_eq_false {connective : Connective} {clause : Clause}
    (other : clause.isGroupOf connective = false) :
    connective.splice (some clause) = [clause] := by
  cases connective <;> cases clause <;>
    simp_all [isGroupOf, Connective.splice, asConjuncts, asDisjuncts]

@[simp]
theorem splice_none (connective : Connective) : connective.splice none = [] := by
  cases connective <;> rfl

@[simp]
theorem splice_group (connective : Connective) (members : List Clause) :
    connective.splice (some (connective.group members)) = members := by
  cases connective <;> rfl

theorem guardMembers_eq_map (guardField : String) (members : List Clause) :
    guardMembers guardField members = members.map (guardGroups guardField) := by
  induction members with
  | nil => simp [guardMembers]
  | cons member members ih => simp [guardMembers, ih]

@[simp]
theorem isNegated_guardGroups (guardField : String) (clause : Clause) :
    (clause.guardGroups guardField).isNegated = clause.isNegated := by
  cases clause <;> simp [guardGroups, isNegated]

theorem guardGroups_group (guardField : String) (connective : Connective)
    (members : List Clause) :
    (connective.group members).guardGroups guardField =
      connective.group
        (if members.all isNegated then
          connective.guarded guardField (members.map (guardGroups guardField))
        else members.map (guardGroups guardField)) := by
  have sameNegations : isNegated ∘ guardGroups guardField = isNegated := by
    funext member
    exact isNegated_guardGroups guardField member
  cases connective <;>
    simp only [Connective.group, Connective.guarded, guardGroups, guardMembers_eq_map,
      List.all_map, sameNegations]

theorem anyNegativeGroup_eq_any (members : List Clause) :
    anyNegativeGroup members = members.any hasNegativeGroup := by
  induction members with
  | nil => simp [anyNegativeGroup]
  | cons member members ih => simp [anyNegativeGroup, ih]

theorem hasNegativeGroup_group (connective : Connective) (members : List Clause) :
    (connective.group members).hasNegativeGroup =
      (members.all isNegated || members.any hasNegativeGroup) := by
  cases connective <;> simp [Connective.group, hasNegativeGroup, anyNegativeGroup_eq_any]

/-! ### Terms -/

theorem terms_group {connective : Connective} {members : List Clause} :
    (connective.group members).terms = members.flatMap terms := by
  have termsOfAll_eq_flatMap : termsOfAll members = members.flatMap terms := by
    induction members with
    | nil => simp [termsOfAll]
    | cons member members ih => simp [termsOfAll, ih]
  cases connective <;> simp [Connective.group, terms, termsOfAll_eq_flatMap]

theorem flatMap_terms_splice (connective : Connective) (reduced : Option Clause) :
    (connective.splice reduced).flatMap terms = reduced.elim [] terms := by
  cases reduced with
  | none => simp
  | some clause =>
      cases same : clause.isGroupOf connective with
      | true =>
          rcases exists_group_of_isGroupOf same with ⟨members, rfl⟩
          rw [splice_group, Option.elim_some, terms_group]
      | false => simp [splice_some_of_isGroupOf_eq_false same]

/-! ### Parts -/

mutual

/-- The clause and all clauses inside it. -/
def parts : Clause → List Clause
  | term leaf => [term leaf]
  | and members => and members :: partsOfAll members
  | or members => or members :: partsOfAll members
  | not inner => not inner :: inner.parts

/-- The parts of several clauses. -/
def partsOfAll : List Clause → List Clause
  | [] => []
  | member :: members => member.parts ++ partsOfAll members

end

/-- The property holds of the clause and of all clauses inside it. -/
def Everywhere (property : Clause → Prop) (clause : Clause) : Prop :=
  ∀ part ∈ clause.parts, property part

instance {property : Clause → Prop} [DecidablePred property] (clause : Clause) :
    Decidable (clause.Everywhere property) :=
  inferInstanceAs (Decidable (∀ part ∈ clause.parts, property part))

variable {property : Clause → Prop}

theorem mem_parts_self (clause : Clause) : clause ∈ clause.parts := by
  cases clause <;> simp [parts]

theorem mem_partsOfAll {part : Clause} {members : List Clause} :
    part ∈ partsOfAll members ↔ ∃ member ∈ members, part ∈ member.parts := by
  induction members with
  | nil => simp [partsOfAll]
  | cons member members ih => simp [partsOfAll, ih]

theorem everywhere_term {leaf : Term} :
    (term leaf).Everywhere property ↔ property (term leaf) := by
  simp [Everywhere, parts]

theorem everywhere_not {inner : Clause} :
    (not inner).Everywhere property ↔ property (not inner) ∧ inner.Everywhere property := by
  simp [Everywhere, parts]

theorem everywhere_group {connective : Connective} {members : List Clause} :
    (connective.group members).Everywhere property ↔
      property (connective.group members) ∧
        ∀ member ∈ members, member.Everywhere property := by
  have parts_group : (connective.group members).parts =
      connective.group members :: partsOfAll members := by
    cases connective <;> rfl
  simp only [Everywhere, parts_group, List.forall_mem_cons, mem_partsOfAll]
  constructor
  · rintro ⟨here, inside⟩
    exact ⟨here, fun member memberMem part partMem => inside part ⟨member, memberMem, partMem⟩⟩
  · rintro ⟨here, inside⟩
    refine ⟨here, ?_⟩
    rintro part ⟨member, memberMem, partMem⟩
    exact inside member memberMem part partMem

theorem everywhere_of_parts {clause : Clause} (terms : ∀ leaf, property (term leaf))
    (groups : ∀ connective members, Connective.group connective members ∈ clause.parts →
      property (connective.group members))
    (negations : ∀ inner, not inner ∈ clause.parts → property (not inner)) :
    clause.Everywhere property := by
  intro part partMem
  induction part with
  | term leaf => exact terms leaf
  | group connective members _ => exact groups connective members partMem
  | not inner _ => exact negations inner partMem

/-- A group has a member. -/
def HasMember : Clause → Prop
  | and members | or members => members ≠ []
  | _ => True

@[simp]
theorem hasMember_group {connective : Connective} {members : List Clause} :
    (connective.group members).HasMember ↔ members ≠ [] := by
  cases connective <;> rfl

instance : DecidablePred HasMember
  | and members | or members => inferInstanceAs (Decidable (members ≠ []))
  | term _ | not _ => inferInstanceAs (Decidable True)

/-- No group inside the clause is empty. -/
def IsFull (clause : Clause) : Prop :=
  clause.Everywhere HasMember

instance (clause : Clause) : Decidable clause.IsFull :=
  inferInstanceAs (Decidable (clause.Everywhere HasMember))

theorem isFull_term (leaf : Term) : (term leaf).IsFull :=
  everywhere_term.mpr trivial

theorem isFull_not {inner : Clause} : (not inner).IsFull ↔ inner.IsFull := by
  rw [IsFull, everywhere_not]
  exact and_iff_right trivial

theorem isFull_group {connective : Connective} {members : List Clause} :
    (connective.group members).IsFull ↔
      members ≠ [] ∧ ∀ member ∈ members, member.IsFull := by
  rw [IsFull, everywhere_group, hasMember_group]
  rfl

/-- A clause without empty groups has a term. -/
theorem IsFull.terms_ne_nil {clause : Clause} (full : clause.IsFull) : clause.terms ≠ [] := by
  induction clause with
  | term leaf => simp [terms]
  | group connective members ih =>
      rcases isFull_group.mp full with ⟨notEmpty, membersFull⟩
      rcases List.exists_mem_of_ne_nil members notEmpty with ⟨member, memberMem⟩
      intro empty
      rw [terms_group, List.flatMap_eq_nil_iff] at empty
      exact ih member memberMem (membersFull member memberMem) (empty member memberMem)
  | not inner ih => exact ih (isFull_not.mp full)

theorem isFull_negate {clause : Clause} (full : clause.IsFull) : clause.negate.IsFull := by
  rcases clause.negate_cases with
    ⟨inner, rfl, negates⟩ | ⟨field, value, _, negates⟩ | ⟨_, _, negates⟩ <;> rw [negates]
  · exact isFull_not.mp full
  · exact isFull_term _
  · exact isFull_not.mpr full

end Clause

end ContentQuery
