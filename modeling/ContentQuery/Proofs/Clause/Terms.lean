import ContentQuery.Proofs.Clause.Canonical
import Mathlib.Algebra.GroupWithZero.Nat
import Mathlib.Algebra.Order.BigOperators.Group.List
import Mathlib.Algebra.Order.Group.Nat

/-!
# Terms of normal forms

Normalization changes the values of boolean terms and inserts presence guards; apart from that it
keeps the terms of a clause and their order. So the guards can be counted: by all the terms, or by
those of them that are presence guards.

The main statement is that the terms of a normal form are those of its clause with guards inserted,
and that it is marked as guarded exactly if there are any. Both passes are followed by induction on
the clause: the first one changes nothing but values, and the second one inserts and does nothing
else.
-/

namespace ContentQuery

/-- The term with the value of a boolean term left aside. -/
def Term.affirmed : Term → Term
  | boolean field _ => boolean field true
  | leaf => leaf

def Term.isPresenceGuard (guardField : String) : Term → Bool
  | range field .gt (.int bound) => field == guardField && bound == 0
  | _ => false

/-- The second list is the first one with an element inserted a number of times. -/
inductive Inserted {Value : Type} (extra : Value) : Nat → List Value → List Value → Prop where
  | nil : Inserted extra 0 [] []
  | keep (head : Value) {count : Nat} {before after : List Value}
      (rest : Inserted extra count before after) :
      Inserted extra count (head :: before) (head :: after)
  | insert {count : Nat} {before after : List Value} (rest : Inserted extra count before after) :
      Inserted extra (count + 1) before (extra :: after)

namespace Inserted

variable {Value : Type} {extra : Value} {count further : Nat} {before between after : List Value}

theorem refl (extra : Value) (values : List Value) : Inserted extra 0 values values := by
  induction values with
  | nil => exact nil
  | cons head rest ih => exact ih.keep head

theorem append {moreBefore moreAfter : List Value} (front : Inserted extra count before after)
    (back : Inserted extra further moreBefore moreAfter) :
    Inserted extra (count + further) (before ++ moreBefore) (after ++ moreAfter) := by
  induction front with
  | nil => simpa using back
  | keep head _ ih => exact ih.keep head
  | insert _ ih =>
      rw [Nat.add_right_comm]
      exact ih.insert

theorem trans (first : Inserted extra count before between)
    (second : Inserted extra further between after) :
    Inserted extra (count + further) before after := by
  induction second generalizing count before with
  | nil => exact first
  | keep head _ ih =>
      cases first with
      | keep _ rest => exact (ih rest).keep head
      | insert rest =>
          rw [Nat.add_right_comm]
          exact (ih rest).insert
  | insert _ ih => exact (ih first).insert

theorem concat (inserted : Inserted extra count before after) :
    Inserted extra (count + 1) before (after ++ [extra]) := by
  simpa using inserted.append nil.insert

/-- Insertions into the parts of a list are insertions into the whole, and there are some exactly if
there are some in some part. -/
theorem flatMap {Item : Type} {items : List Item} {old new : Item → List Value}
    {grows : Item → Prop}
    (each : ∀ item ∈ items, ∃ count,
      Inserted extra count (old item) (new item) ∧ (0 < count ↔ grows item)) :
    ∃ count, Inserted extra count (items.flatMap old) (items.flatMap new) ∧
      (0 < count ↔ ∃ item ∈ items, grows item) := by
  induction items with
  | nil => exact ⟨0, nil, by simp⟩
  | cons item items ih =>
      rcases List.forall_mem_cons.mp each with ⟨⟨count, front, grown_iff⟩, tail⟩
      rcases ih tail with ⟨further, back, grows_iff⟩
      refine ⟨count + further, front.append back, ?_⟩
      rw [List.exists_mem_cons_iff, ← grown_iff, ← grows_iff]
      omega

theorem eq_or_mem {value : Value} (inserted : Inserted extra count before after)
    (valueMem : value ∈ after) : value = extra ∨ value ∈ before := by
  induction inserted with
  | nil => cases valueMem
  | keep head _ ih =>
      rcases List.mem_cons.mp valueMem with rfl | valueMem
      · exact .inr List.mem_cons_self
      · exact (ih valueMem).imp_right (List.mem_cons_of_mem head)
  | insert _ ih =>
      rcases List.mem_cons.mp valueMem with rfl | valueMem
      · exact .inl rfl
      · exact ih valueMem

theorem countP_eq {counted : Value → Bool} (inserted : Inserted extra count before after)
    (extraCounts : counted extra = true) :
    after.countP counted = before.countP counted + count := by
  induction inserted with
  | nil => rfl
  | keep head _ ih =>
      rw [List.countP_cons, List.countP_cons, ih]
      omega
  | insert _ ih =>
      rw [List.countP_cons_of_pos extraCounts, ih]
      omega

theorem length_eq (inserted : Inserted extra count before after) :
    after.length = before.length + count := by
  have longer := @countP_eq Value extra count before after (fun _ => true) inserted rfl
  simpa using longer

end Inserted

namespace Clause

/-- The terms of a clause from left to right, values of boolean terms aside. -/
def affirmedTerms (clause : Clause) : List Term :=
  clause.terms.map Term.affirmed

variable {guardField : String} {connective : Connective} {members : List Clause}

theorem affirmedTerms_group :
    (connective.group members).affirmedTerms = members.flatMap affirmedTerms := by
  rw [affirmedTerms, terms_group, List.map_flatMap]
  rfl

theorem affirmedTerms_presenceGuard :
    (presenceGuard guardField).affirmedTerms = [.range guardField .gt (.int 0)] :=
  rfl

theorem affirmedTerms_guarded_member (member : Clause) :
    (and [member, presenceGuard guardField]).affirmedTerms =
      member.affirmedTerms ++ [.range guardField .gt (.int 0)] :=
  (@affirmedTerms_group .and _).trans (by simp [affirmedTerms_presenceGuard])

/-! ### The first pass -/

theorem affirmedTerms_negate (clause : Clause) :
    clause.negate.affirmedTerms = clause.affirmedTerms := by
  rcases clause.negate_cases with
    ⟨inner, rfl, negates⟩ | ⟨field, value, rfl, negates⟩ | ⟨_, _, negates⟩ <;> rw [negates] <;> rfl

theorem elim_affirmedTerms_collapse :
    (collapse connective.group members).elim [] affirmedTerms = members.flatMap affirmedTerms := by
  match members with
  | [] => rfl
  | [member] => simp [collapse]
  | first :: second :: rest => simp only [collapse, Option.elim_some, affirmedTerms_group]

theorem flatMap_affirmedTerms_splice (reduced : Option Clause) :
    (connective.splice reduced).flatMap affirmedTerms = reduced.elim [] affirmedTerms := by
  have mapped : (connective.splice reduced).flatMap affirmedTerms =
      ((connective.splice reduced).flatMap terms).map Term.affirmed := List.map_flatMap.symm
  rw [mapped, flatMap_terms_splice]
  cases reduced <;> rfl

/-- The first pass keeps the terms in their order. -/
theorem affirmedTerms_reduce (clause : Clause) :
    clause.reduce.elim [] affirmedTerms = clause.affirmedTerms := by
  induction clause with
  | term leaf => simp [reduce]
  | group connective members ih =>
      rw [reduce_group, elim_affirmedTerms_collapse, affirmedTerms_group, List.flatMap_assoc]
      apply List.flatMap_congr
      intro member memberMem
      rw [flatMap_affirmedTerms_splice, ih member memberMem]
  | not inner ih =>
      rw [reduce]
      cases reduces : inner.reduce with
      | none =>
          rw [reduces] at ih
          exact ih
      | some reduced =>
          rw [reduces] at ih
          rw [Option.map_some, Option.elim_some, affirmedTerms_negate]
          exact ih

/-! ### The second pass -/

/-- The guards that a group of negations gets are inserted among its terms. -/
theorem inserted_guarded (notEmpty : members ≠ []) :
    ∃ count, 0 < count ∧
      Inserted (.range guardField .gt (.int 0)) count (members.flatMap affirmedTerms)
        ((connective.guarded guardField members).flatMap affirmedTerms) := by
  cases connective with
  | and =>
      refine ⟨1, Nat.one_pos, ?_⟩
      rw [Connective.guarded, List.flatMap_append, List.flatMap_singleton,
        affirmedTerms_presenceGuard]
      exact (Inserted.refl _ _).concat
  | or =>
      have each : ∀ member ∈ members, ∃ count,
          Inserted (.range guardField .gt (.int 0)) count member.affirmedTerms
              (and [member, presenceGuard guardField]).affirmedTerms ∧
            (0 < count ↔ True) := by
        intro member _
        rw [affirmedTerms_guarded_member]
        exact ⟨1, (Inserted.refl _ _).concat, by simp⟩
      rcases Inserted.flatMap each with ⟨count, inserted, grows_iff⟩
      rw [Connective.guarded, List.flatMap_map]
      refine ⟨count, ?_, inserted⟩
      rcases List.exists_mem_of_ne_nil members notEmpty with ⟨member, memberMem⟩
      exact grows_iff.mpr ⟨member, memberMem, trivial⟩

/-- The second pass inserts guards and does nothing else, and it inserts one exactly if some group
has only negated members. -/
theorem inserted_guardGroups {clause : Clause} (reduced : clause.IsReduced) :
    ∃ count,
      Inserted (.range guardField .gt (.int 0)) count clause.affirmedTerms
          (clause.guardGroups guardField).affirmedTerms ∧
        (0 < count ↔ clause.hasNegativeGroup = true) := by
  induction clause with
  | term leaf => exact ⟨0, .refl _ _, by simp [hasNegativeGroup]⟩
  | group connective members ih =>
      rcases isReduced_group.mp reduced with ⟨sized, _, membersReduced⟩
      have each := fun member memberMem => ih member memberMem (membersReduced member memberMem)
      rcases Inserted.flatMap each with ⟨count, inMembers, grows_iff⟩
      rw [guardGroups_group, hasNegativeGroup_group, affirmedTerms_group, affirmedTerms_group]
      cases negative : members.all isNegated with
      | true =>
          have notEmpty : members.map (guardGroups guardField) ≠ [] := by
            rw [← List.length_pos_iff, List.length_map]
            omega
          rcases @inserted_guarded guardField connective _ notEmpty with
            ⟨further, positive, inGroup⟩
          rw [List.flatMap_map] at inGroup
          exact ⟨count + further, inMembers.trans inGroup, by simp; omega⟩
      | false =>
          rw [if_neg Bool.false_ne_true, Bool.false_or, List.any_eq_true, List.flatMap_map]
          exact ⟨count, inMembers, grows_iff⟩
  | not inner ih =>
      rcases isReduced_not.mp reduced with ⟨_, _, innerReduced⟩
      exact ih innerReduced

/-! ### Normal forms -/

/-- The terms of a normal form are those of its clause with guards inserted, values of boolean terms
aside, and it is marked as guarded exactly if there are any. -/
theorem inserted_normalize {clause : Clause} {normalized : Normalized}
    (normalizes : clause.normalize guardField = some normalized) :
    ∃ count,
      Inserted (.range guardField .gt (.int 0)) count clause.affirmedTerms
          normalized.clause.affirmedTerms ∧
        (normalized.guarded = true ↔ 0 < count) := by
  have same := clause.affirmedTerms_reduce
  simp only [normalize, Option.map_eq_some_iff] at normalizes
  rcases normalizes with ⟨reduced, reduces, rfl⟩
  rw [reduces, Option.elim_some] at same
  rcases @inserted_guardGroups guardField _ (isReduced_of_reduce reduces) with
    ⟨count, inserted, grown_iff⟩
  rw [← same]
  cases negated : (reduced.guardGroups guardField).isNegated with
  | true =>
      refine ⟨count + 1, ?_, by simp⟩
      rw [if_pos rfl, affirmedTerms_guarded_member]
      exact inserted.concat
  | false => exact ⟨count, inserted, grown_iff.symm⟩

theorem normalize_eq_none_iff {clause : Clause} :
    clause.normalize guardField = none ↔ clause.terms = [] := by
  have same := clause.affirmedTerms_reduce
  rw [normalize, Option.map_eq_none_iff, ← @List.map_eq_nil_iff _ _ Term.affirmed]
  change _ ↔ clause.affirmedTerms = []
  rw [← same]
  cases reduces : clause.reduce with
  | none => simp
  | some reduced =>
      have full := isFull_of_hasTwoMembers (isReduced_of_reduce reduces).two_members
      simpa [affirmedTerms] using full.terms_ne_nil

/-- A clause has no normal form exactly if it has no term. Otherwise the terms of the normal form
are those of the clause in the same order, with a number of presence guards inserted and nothing
else changed but values of boolean terms. The normal form is marked as guarded exactly if this
number is not zero, so if it has more terms than the clause. -/
theorem terms_normalize (guardField : String) (clause : Clause) :
    (clause.normalize guardField = none ↔ clause.terms = []) ∧
      ∀ normalized, clause.normalize guardField = some normalized →
        ∃ count,
          Inserted (.range guardField .gt (.int 0)) count (clause.terms.map Term.affirmed)
              (normalized.clause.terms.map Term.affirmed) ∧
            (normalized.guarded = true ↔ 0 < count) ∧
            (normalized.guarded = true ↔ clause.termCount < normalized.clause.termCount) := by
  refine ⟨normalize_eq_none_iff, ?_⟩
  intro normalized normalizes
  rcases inserted_normalize normalizes with ⟨count, inserted, guarded_iff⟩
  refine ⟨count, inserted, guarded_iff, guarded_iff.trans ?_⟩
  have longer := inserted.length_eq
  simp only [affirmedTerms, List.length_map] at longer
  rw [termCount, termCount, longer]
  omega

/-! ### Counting guards -/

/-- The test counts presence guards, and it counts boolean terms whatever their value or not
at all. -/
structure CountsGuards (guardField : String) (counted : Term → Bool) : Prop where
  guard : counted (.range guardField .gt (.int 0)) = true
  boolean : ∀ field value, counted (.boolean field !value) = counted (.boolean field value)

theorem countsGuards_isPresenceGuard (guardField : String) :
    CountsGuards guardField (Term.isPresenceGuard guardField) :=
  ⟨by simp [Term.isPresenceGuard], fun _ _ => rfl⟩

/-- The number of terms of the clause that pass a test. -/
def count (counted : Term → Bool) (clause : Clause) : Nat :=
  clause.terms.countP counted

variable {counted : Term → Bool}

theorem count_term (leaf : Term) : (term leaf).count counted = (counted leaf).toNat := by
  cases counts : counted leaf <;> simp [count, terms, counts]

theorem count_presenceGuard (counts : CountsGuards guardField counted) :
    (presenceGuard guardField).count counted = 1 := by
  rw [presenceGuard, count_term, counts.guard]
  rfl

theorem count_eq_countP (counts : CountsGuards guardField counted) (clause : Clause) :
    clause.count counted = clause.affirmedTerms.countP counted := by
  have alike (leaf : Term) : counted leaf = counted leaf.affirmed := by
    cases leaf with
    | boolean field value =>
        cases value with
        | true => rfl
        | false => exact counts.boolean field true
    | _ => rfl
  rw [count, affirmedTerms, List.countP_map]
  exact List.countP_congr fun leaf _ => by rw [alike leaf]; rfl

/-- Normalization drops no term, and a normal form is marked as guarded exactly if it has more terms
that pass the count than its clause. -/
theorem count_normalize (counts : CountsGuards guardField counted) (clause : Clause) :
    let normalized := clause.normalize guardField
    let countAfter := normalized.elim 0 fun form => form.clause.count counted
    clause.count counted ≤ countAfter ∧
      (normalized.any (·.guarded) = true ↔ clause.count counted < countAfter) := by
  intro normalized countAfter
  cases normalizes : clause.normalize guardField with
  | none =>
      have empty : clause.count counted = 0 := by
        rw [count, normalize_eq_none_iff.mp normalizes, List.countP_nil]
      simp [normalized, countAfter, normalizes, empty]
  | some form =>
      rcases inserted_normalize normalizes with ⟨count, inserted, guarded_iff⟩
      have grown := inserted.countP_eq counts.guard
      rw [← count_eq_countP counts, ← count_eq_countP counts] at grown
      simp only [normalized, countAfter, normalizes, Option.elim_some, Option.any_some, guarded_iff,
        grown]
      omega

end Clause

end ContentQuery
