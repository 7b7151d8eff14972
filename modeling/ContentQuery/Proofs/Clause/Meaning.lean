import ContentQuery.Proofs.Clause.Canonical

/-!
# Meaning of clauses

A clause is read in three ways. `Clause.holds` is the plain boolean reading. `Clause.meaning` is the
same reading for clauses that may have empty groups: these say nothing, and neither do groups of
clauses that say nothing. `Clause.finds` is the reading of the search engine, for which a group of
negations matches no item at all.

The main statement is that the engine finds for the normal form of a clause just what the clause
means.
-/

namespace ContentQuery

/-- A content item as queries see it: by the terms that hold of it. -/
structure Item (guardField : String) where
  satisfies : Term → Bool
  /-- The item passes the presence guard. -/
  present : satisfies (.range guardField .gt (.int 0)) = true
  /-- A boolean field is either true or false. -/
  complementary : ∀ field, satisfies (.boolean field false) = !satisfies (.boolean field true)

namespace Item

variable {guardField : String}

/-- The item whose boolean fields are all true and of which every other condition holds. -/
instance : Inhabited (Item guardField) where
  default :=
    { satisfies := fun
        | .boolean _ value => value
        | _ => true
      present := rfl
      complementary := fun _ => rfl }

theorem satisfies_boolean_not (item : Item guardField) (field : String) (value : Bool) :
    item.satisfies (.boolean field !value) = !item.satisfies (.boolean field value) := by
  cases value <;> simp [item.complementary]

end Item

/-- The truth value of a group whose members have the given truth values, if there are any. -/
def Connective.gather (connective : Connective) : List Bool → Option Bool
  | [] => none
  | values => some (connective.combine values)

theorem Connective.gather_eq_ite (connective : Connective) (values : List Bool) :
    connective.gather values = if values = [] then none else some (connective.combine values) := by
  cases values <;> rfl

namespace Clause

mutual

/-- The clause holds where the given terms do. -/
def holds (satisfies : Term → Bool) : Clause → Bool
  | term leaf => satisfies leaf
  | and members => allHold satisfies members
  | or members => anyHolds satisfies members
  | not inner => !inner.holds satisfies

/-- All of the clauses hold. -/
def allHold (satisfies : Term → Bool) : List Clause → Bool
  | [] => true
  | member :: members => member.holds satisfies && allHold satisfies members

/-- Some of the clauses holds. -/
def anyHolds (satisfies : Term → Bool) : List Clause → Bool
  | [] => false
  | member :: members => member.holds satisfies || anyHolds satisfies members

end

mutual

/-- The truth value of a clause where the given terms hold, if the clause says anything. -/
def meaning (satisfies : Term → Bool) : Clause → Option Bool
  | term leaf => some (satisfies leaf)
  | and members => Connective.and.gather (meanings satisfies members)
  | or members => Connective.or.gather (meanings satisfies members)
  | not inner => (inner.meaning satisfies).map Bool.not

/-- The truth values of those of the clauses that say anything. -/
def meanings (satisfies : Term → Bool) : List Clause → List Bool
  | [] => []
  | member :: members => (member.meaning satisfies).toList ++ meanings satisfies members

end

mutual

/-- The engine's reading of a clause inside another one: a group of negations matches nothing. -/
def finds (satisfies : Term → Bool) : Clause → Bool
  | term leaf => satisfies leaf
  | and members => !members.all isNegated && allFind satisfies members
  | or members => !members.all isNegated && anyFinds satisfies members
  | not inner => !inner.finds satisfies

/-- The engine's reading of the members of a conjunction. -/
def allFind (satisfies : Term → Bool) : List Clause → Bool
  | [] => true
  | member :: members => member.finds satisfies && allFind satisfies members

/-- The engine's reading of the members of a disjunction. -/
def anyFinds (satisfies : Term → Bool) : List Clause → Bool
  | [] => false
  | member :: members => member.finds satisfies || anyFinds satisfies members

end

/-- The engine's reading of a clause that stands alone: a negation matches nothing. -/
def findsAlone (satisfies : Term → Bool) (clause : Clause) : Bool :=
  !clause.isNegated && clause.finds satisfies

variable {satisfies : Term → Bool}

theorem holds_group (connective : Connective) (members : List Clause) :
    (connective.group members).holds satisfies =
      connective.combine (members.map (holds satisfies)) := by
  cases connective with
  | and =>
      simp only [Connective.group, holds, Connective.combine]
      induction members with
      | nil => rfl
      | cons member members ih => simp [allHold, ih]
  | or =>
      simp only [Connective.group, holds, Connective.combine]
      induction members with
      | nil => rfl
      | cons member members ih => simp [anyHolds, ih]

theorem meanings_eq_filterMap (members : List Clause) :
    meanings satisfies members = members.filterMap (meaning satisfies) := by
  induction members with
  | nil => rfl
  | cons member members ih => cases h : member.meaning satisfies <;> simp [meanings, h, ih]

theorem meaning_group (connective : Connective) (members : List Clause) :
    (connective.group members).meaning satisfies =
      connective.gather (members.filterMap (meaning satisfies)) := by
  cases connective <;> simp [Connective.group, meaning, meanings_eq_filterMap]

theorem finds_group (connective : Connective) (members : List Clause) :
    (connective.group members).finds satisfies =
      (!members.all isNegated && connective.combine (members.map (finds satisfies))) := by
  cases connective with
  | and =>
      simp only [Connective.group, finds, Connective.combine]
      congr 1
      induction members with
      | nil => rfl
      | cons member members ih => simp [allFind, ih]
  | or =>
      simp only [Connective.group, finds, Connective.combine]
      congr 1
      induction members with
      | nil => rfl
      | cons member members ih => simp [anyFinds, ih]

/-- A clause without empty groups means what it says. -/
theorem meaning_eq_some_holds {clause : Clause} (full : clause.IsFull) :
    clause.meaning satisfies = some (clause.holds satisfies) := by
  induction clause with
  | term leaf => rfl
  | group connective members ih =>
      rw [isFull_group] at full
      have meant : members.filterMap (meaning satisfies) = members.map (holds satisfies) := by
        rw [← List.filterMap_eq_map]
        apply List.filterMap_congr
        intro member memberMem
        exact ih member memberMem (full.2 member memberMem)
      rw [meaning_group, meant, holds_group, Connective.gather_eq_ite]
      simp [full.1]
  | not inner ih => simp [meaning, holds, ih (isFull_not.mp full)]

/-! ### The first pass -/

variable {guardField : String}

theorem holds_negate (item : Item guardField) (clause : Clause) :
    clause.negate.holds item.satisfies = !clause.holds item.satisfies := by
  rcases clause.negate_cases with
    ⟨inner, rfl, negates⟩ | ⟨field, value, rfl, negates⟩ | ⟨_, _, negates⟩ <;> rw [negates]
  · simp [holds]
  · simp [holds, item.satisfies_boolean_not]
  · rw [holds]

theorem holds_collapse (connective : Connective) (members : List Clause) :
    (collapse connective.group members).map (holds satisfies) =
      connective.gather (members.map (holds satisfies)) := by
  match members with
  | [] => rfl
  | [member] => simp [collapse, Connective.gather]
  | first :: second :: rest => simp [collapse, Connective.gather, holds_group]

/-- Splicing keeps the truth value of what it splices. -/
theorem combine_splice (connective : Connective) (clause : Clause) :
    connective.combine ((connective.splice (some clause)).map (holds satisfies)) =
      clause.holds satisfies := by
  cases same : clause.isGroupOf connective with
  | true =>
      rcases exists_group_of_isGroupOf same with ⟨members, rfl⟩
      rw [splice_group, holds_group]
  | false => simp [splice_some_of_isGroupOf_eq_false same]

theorem splice_ne_nil (connective : Connective) {clause : Clause} (reduced : clause.IsReduced) :
    connective.splice (some clause) ≠ [] := by
  cases same : clause.isGroupOf connective with
  | true =>
      rcases exists_group_of_isGroupOf same with ⟨members, rfl⟩
      have sized := (isReduced_group.mp reduced).1
      rw [splice_group]
      rintro rfl
      simp at sized
  | false => simp [splice_some_of_isGroupOf_eq_false same]

theorem splice_reduce_eq_nil (connective : Connective) {member : Clause}
    (meant : member.reduce.map (holds satisfies) = member.meaning satisfies) :
    connective.splice member.reduce = [] ↔ member.meaning satisfies = none := by
  rw [← meant]
  cases reduces : member.reduce with
  | none => simp
  | some reduced => simp [splice_ne_nil connective (isReduced_of_reduce reduces)]

theorem combine_splice_reduce (connective : Connective) {members : List Clause}
    (meant : ∀ member ∈ members,
      member.reduce.map (holds satisfies) = member.meaning satisfies) :
    connective.combine
        ((members.flatMap fun member => connective.splice member.reduce).map (holds satisfies)) =
      connective.combine (members.filterMap (meaning satisfies)) := by
  induction members with
  | nil => rfl
  | cons member members ih =>
      rcases List.forall_mem_cons.mp meant with ⟨headMeant, tailMeant⟩
      rw [List.flatMap_cons, List.map_append, List.filterMap_cons, ← headMeant,
        Connective.combine_append, ih tailMeant]
      cases member.reduce with
      | none => cases connective <;> simp [Connective.combine, Connective.join]
      | some reduced => simp [combine_splice, Connective.combine_cons]

/-- The truth values of spliced members combine as those of the members that say anything, and there
are some of the one exactly if there are some of the other. -/
theorem gather_splice_reduce (connective : Connective) {members : List Clause}
    (meant : ∀ member ∈ members,
      member.reduce.map (holds satisfies) = member.meaning satisfies) :
    connective.gather
        ((members.flatMap fun member => connective.splice member.reduce).map (holds satisfies)) =
      connective.gather (members.filterMap (meaning satisfies)) := by
  have sameSilence :
      (members.flatMap fun member => connective.splice member.reduce).map (holds satisfies) = [] ↔
        members.filterMap (meaning satisfies) = [] := by
    rw [List.map_eq_nil_iff, List.flatMap_eq_nil_iff, List.filterMap_eq_nil_iff]
    apply forall₂_congr
    intro member memberMem
    exact splice_reduce_eq_nil connective (meant member memberMem)
  rw [Connective.gather_eq_ite, Connective.gather_eq_ite, combine_splice_reduce connective meant]
  simp only [sameSilence]

/-- The first pass keeps what a clause means, and keeps nothing of a clause that says nothing. -/
theorem holds_reduce (item : Item guardField) (clause : Clause) :
    clause.reduce.map (holds item.satisfies) = clause.meaning item.satisfies := by
  induction clause with
  | term leaf => simp [reduce, meaning, holds]
  | group connective members ih =>
      rw [reduce_group, holds_collapse, gather_splice_reduce connective ih, meaning_group]
  | not inner ih =>
      rw [reduce, meaning, ← ih]
      cases inner.reduce with
      | none => rfl
      | some reduced => simp [holds_negate]

/-! ### The second pass -/

theorem holds_presenceGuard (item : Item guardField) :
    (presenceGuard guardField).holds item.satisfies = true :=
  item.present

theorem combine_guarded (item : Item guardField) (connective : Connective)
    (members : List Clause) :
    connective.combine ((connective.guarded guardField members).map (holds item.satisfies)) =
      connective.combine (members.map (holds item.satisfies)) := by
  cases connective with
  | and => simp [Connective.guarded, Connective.combine, holds_presenceGuard]
  | or =>
      have guardedMember (member : Clause) :
          (and [member, presenceGuard guardField]).holds item.satisfies =
            member.holds item.satisfies := by
        simp [holds, allHold, holds_presenceGuard]
      simp [Connective.guarded, Connective.combine, Function.comp_def, guardedMember]

/-- The guards of the second pass hold of every item, so they change no truth value. -/
theorem holds_guardGroups (item : Item guardField) (clause : Clause) :
    (clause.guardGroups guardField).holds item.satisfies = clause.holds item.satisfies := by
  induction clause with
  | term leaf => rfl
  | group connective members ih =>
      have unchanged : (members.map (guardGroups guardField)).map (holds item.satisfies) =
          members.map (holds item.satisfies) := by
        rw [List.map_map]
        exact List.map_congr_left ih
      rw [guardGroups_group, holds_group, holds_group]
      split
      · rw [combine_guarded, unchanged]
      · rw [unchanged]
  | not inner ih => simp [guardGroups, holds, ih]

/-- Where no group has only negated members, the engine's reading is the plain one. -/
theorem finds_eq_holds {clause : Clause} (positive : clause.Everywhere HasPositiveMember) :
    clause.finds satisfies = clause.holds satisfies := by
  induction clause with
  | term leaf => rfl
  | group connective members ih =>
      rw [everywhere_group] at positive
      have agree : members.map (finds satisfies) = members.map (holds satisfies) := by
        apply List.map_congr_left
        intro member memberMem
        exact ih member memberMem (positive.2 member memberMem)
      rw [finds_group, holds_group, agree,
        not_all_isNegated (hasPositiveMember_group.mp positive.1)]
      simp
  | not inner ih =>
      rw [everywhere_not] at positive
      simp [finds, holds, ih positive.2]

/-! ### Normal forms -/

/-- Normalization keeps what a clause means in the plain reading. -/
theorem holds_normalize (item : Item guardField) (clause : Clause) :
    (clause.normalize guardField).map (fun normalized => normalized.clause.holds item.satisfies) =
      clause.meaning item.satisfies := by
  rw [← holds_reduce item, normalize, Option.map_map]
  congr 1
  funext reduced
  cases negated : reduced.isNegated with
  | true => simp [negated, holds, allHold, holds_presenceGuard, holds_guardGroups]
  | false => simp [negated, holds_guardGroups]

/-- The engine finds for the normal form of a clause just what the clause means, and the normal form
is missing exactly if the clause says nothing. -/
theorem findsAlone_normalize (item : Item guardField) (clause : Clause) :
    (clause.normalize guardField).map
        (fun normalized => normalized.clause.findsAlone item.satisfies) =
      clause.meaning item.satisfies := by
  rw [← holds_normalize item]
  cases normalizes : clause.normalize guardField with
  | none => rfl
  | some normalized =>
      have canonical := isCanonical_normalize guardField normalizes
      simp [findsAlone, canonical.not_negated, finds_eq_holds canonical.positive_members]

end Clause

end ContentQuery
