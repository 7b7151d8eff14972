import ContentQuery.Proofs.Clause.Meaning
import ContentQuery.Proofs.Clause.Text

/-!
# Meaning of signs

Query text marks the members of a group by signs: all members with a plus sign have to hold, none
with a minus sign may hold, and where no member has a plus sign, some member without a sign has to
hold. `Clause.written` gives the members with their signs, and `Clause.reads` is what they say.

The main statement is that the text of a normal form says what the clause means, unless a
disjunction mixes negated alternatives with others. Such a disjunction is written with the negated
alternatives as conditions of the whole group, so its text says that they all hold beside one of the
others.
-/

namespace ContentQuery

namespace Sign

/-- What a sign asks of the truth value of its member. -/
def admits : Sign → Bool → Bool
  | required, value => value
  | prohibited, value => !value
  | optional, _ => true

/-- The reading of a group whose members have the given signs and truth values. -/
def combine (members : List (Sign × Bool)) : Bool :=
  members.all (fun (sign, value) => sign.admits value) &&
    (members.any (fun (sign, _) => sign == required) ||
      members.any fun (sign, value) => sign == optional && value)

@[simp]
theorem combine_singleton_optional (value : Bool) : combine [(optional, value)] = value := by
  cases value <;> rfl

section

variable {α : Type} {members : List α} {negated value : α → Bool}

/-- Where a member without a negation is required, the signs ask that all members hold. -/
theorem combine_required (positive : ∃ member ∈ members, negated member = false) :
    combine (members.map fun member =>
        (if negated member then prohibited else required, value member ^^ negated member)) =
      members.all value := by
  have admitted (member : α) :
      (if negated member then prohibited else required).admits (value member ^^ negated member) =
        value member := by
    cases negated member <;> simp [admits]
  have someRequired :
      (members.any fun member => (if negated member then prohibited else required) == required) =
        true := by
    rcases positive with ⟨member, memberMem, notNegated⟩
    exact List.any_eq_true.mpr ⟨member, memberMem, by simp [notNegated]⟩
  simp only [combine, List.all_map, List.any_map, Function.comp_def, admitted, someRequired]
  rw [Bool.true_or, Bool.and_true]

/-- Where members without a negation have no sign, one of them has to hold beside all negations. -/
theorem combine_optional :
    combine (members.map fun member =>
        (if negated member then prohibited else optional, value member ^^ negated member)) =
      ((members.any fun member => !negated member && value member) &&
        members.all fun member => !negated member || value member) := by
  have admitted (member : α) :
      (if negated member then prohibited else optional).admits (value member ^^ negated member) =
        (!negated member || value member) := by
    cases negated member <;> simp [admits]
  have noneRequired :
      (members.any fun member => (if negated member then prohibited else optional) == required) =
        false := by
    rw [List.any_eq_false]
    intro member _
    cases negated member <;> decide
  have offered (member : α) :
      ((if negated member then prohibited else optional) == optional &&
          (value member ^^ negated member)) =
        (!negated member && value member) := by
    cases negated member <;> simp
  simp only [combine, List.all_map, List.any_map, Function.comp_def, admitted, noneRequired,
    offered]
  rw [Bool.false_or, Bool.and_comm]

end

end Sign

/-- A member of a group as it is written: a term, or a group in parentheses, with a sign. -/
inductive SignedMember where
  | term (sign : Sign) (leaf : Term)
  | group (sign : Sign) (members : List SignedMember)
deriving Repr

namespace SignedMember

/-- The sign of a member. -/
def sign : SignedMember → Sign
  | term sign _ | group sign _ => sign

mutual

/-- The text of a member. -/
def text : SignedMember → String
  | term sign leaf => sign.text ++ (Clause.term leaf).memberText
  | group sign members => sign.text ++ ("(" ++ Clause.sideBySide (texts members) ++ ")")

/-- The texts of several members. -/
def texts : List SignedMember → List String
  | [] => []
  | member :: members => member.text :: texts members

end

/-- The text of members at the top, where a term alone needs no parentheses. -/
def topText : List SignedMember → String
  | [term .optional leaf] => leaf.text
  | members => Clause.sideBySide (texts members)

mutual

/-- The truth value of a member without its sign. -/
def holds (satisfies : Term → Bool) : SignedMember → Bool
  | term _ leaf => satisfies leaf
  | group _ members => Sign.combine (readings satisfies members)

/-- The members of a group by their signs and truth values. -/
def readings (satisfies : Term → Bool) : List SignedMember → List (Sign × Bool)
  | [] => []
  | member :: members => (member.sign, member.holds satisfies) :: readings satisfies members

end

end SignedMember

namespace Clause

mutual

/-- The clause as a member with the given sign; a negation has its own. -/
def signed : Sign → Clause → SignedMember
  | sign, term leaf => .term sign leaf
  | sign, and members => .group sign (signedAll .required members)
  | sign, or members => .group sign (signedAll .optional members)
  | _, not inner => inner.signed .prohibited

/-- Several clauses as members with the given sign. -/
def signedAll : Sign → List Clause → List SignedMember
  | _, [] => []
  | sign, member :: members => member.signed sign :: signedAll sign members

end

/-- The members at the top of the text of a clause. -/
def written : Clause → List SignedMember
  | and members => signedAll .required members
  | or members => signedAll .optional members
  | clause => [clause.signed .optional]

/-- What the text of a clause says where the given terms hold. -/
def reads (satisfies : Term → Bool) (clause : Clause) : Bool :=
  Sign.combine (SignedMember.readings satisfies clause.written)

mutual

/-- The clause in which the negated alternatives of a disjunction are conditions of their own. -/
def separate : Clause → Clause
  | term leaf => term leaf
  | and members => and (separateAll members)
  | or members =>
    let alternatives := separateAll members
    and (or (alternatives.filter (!·.isNegated)) :: alternatives.filter isNegated)
  | not inner => not inner.separate

/-- Several clauses with their negated alternatives separated. -/
def separateAll : List Clause → List Clause
  | [] => []
  | member :: members => member.separate :: separateAll members

end

/-- A disjunction has no negated alternative. -/
def IsUnmixed : Clause → Prop
  | or members => ∀ member ∈ members, member.isNegated = false
  | _ => True

instance : DecidablePred IsUnmixed
  | or members => inferInstanceAs (Decidable (∀ member ∈ members, member.isNegated = false))
  | term _ | and _ | not _ => inferInstanceAs (Decidable True)

end Clause

/-! ### Members and their texts -/

namespace SignedMember

theorem texts_eq_map (members : List SignedMember) : texts members = members.map text := by
  induction members with
  | nil => rw [texts, List.map_nil]
  | cons member members ih => rw [texts, ih, List.map_cons]

theorem readings_eq_map (satisfies : Term → Bool) (members : List SignedMember) :
    readings satisfies members =
      members.map fun member => (member.sign, member.holds satisfies) := by
  induction members with
  | nil => rw [readings, List.map_nil]
  | cons member members ih => rw [readings, ih, List.map_cons]

theorem topText_eq_sideBySide {members : List SignedMember} (sized : 2 ≤ members.length) :
    topText members = Clause.sideBySide (members.map text) := by
  match members, sized with
  | first :: second :: rest, _ => rw [topText, texts_eq_map]; simp

end SignedMember

namespace Clause

theorem signedAll_eq_map (sign : Sign) (members : List Clause) :
    signedAll sign members = members.map (signed sign) := by
  induction members with
  | nil => rw [signedAll, List.map_nil]
  | cons member members ih => rw [signedAll, ih, List.map_cons]

theorem separateAll_eq_map (members : List Clause) :
    separateAll members = members.map separate := by
  induction members with
  | nil => rw [separateAll, List.map_nil]
  | cons member members ih => rw [separateAll, ih, List.map_cons]

variable {connective : Connective} {members : List Clause} {satisfies : Term → Bool}

theorem signed_group (sign : Sign) :
    (connective.group members).signed sign =
      .group sign (members.map (signed connective.sign)) := by
  rw [← signedAll_eq_map]
  cases connective <;> rfl

theorem written_group :
    (connective.group members).written = members.map (signed connective.sign) := by
  rw [← signedAll_eq_map]
  cases connective <;> rfl

theorem texts_signed (marked : ∀ member ∈ members,
    (member.signed connective.sign).text = connective.memberText member) :
    (members.map (signed connective.sign)).map SignedMember.text =
      connective.memberTexts members := by
  rw [List.map_map]
  exact List.map_congr_left marked

/-- A member is written with its sign, and a negation with its own. -/
theorem text_signed {clause : Clause} (reduced : clause.IsReduced) (sign : Sign) :
    (clause.signed sign).text =
      (if clause.isNegated then "" else sign.text) ++ clause.memberText := by
  induction clause generalizing sign with
  | term leaf => simp [signed, SignedMember.text]
  | group connective members ih =>
      rcases isReduced_group.mp reduced with ⟨_, _, membersReduced⟩
      have texts := texts_signed fun member memberMem =>
        ih member memberMem (membersReduced member memberMem) connective.sign
      rw [signed_group, SignedMember.text, SignedMember.texts_eq_map, texts, memberText_group,
        text_group]
      simp
  | not inner ih =>
      rcases isReduced_not.mp reduced with ⟨notNegated, _, innerReduced⟩
      rw [signed, ih innerReduced .prohibited, memberText_not, notNegated]
      simp [Sign.text]

/-- The text of a canonical clause is the text of its members. -/
theorem topText_written {clause : Clause} (canonical : clause.IsCanonical) :
    SignedMember.topText clause.written = clause.text := by
  cases clause using group_induction with
  | term leaf => rfl
  | group connective members _ =>
      rcases isReduced_group.mp canonical.toIsReduced with ⟨sized, _, membersReduced⟩
      have texts := texts_signed fun member memberMem =>
        text_signed (membersReduced member memberMem) connective.sign
      rw [written_group, SignedMember.topText_eq_sideBySide (by simpa using sized), texts,
        text_group]
  | not inner _ => cases canonical.not_negated

/-! ### What the members say -/

@[simp]
theorem isNegated_separate (clause : Clause) : clause.separate.isNegated = clause.isNegated := by
  cases clause <;> simp [separate, isNegated]

theorem holds_separate_and :
    (and members).separate.holds satisfies =
      members.all fun member => member.separate.holds satisfies := by
  have conjunction := @holds_group satisfies .and
  simp only [Connective.group, Connective.combine] at conjunction
  simp [separate, separateAll_eq_map, conjunction, Function.comp_def]

/-- Of a separated disjunction some alternative holds that is not negated, and so do all negated
alternatives. -/
theorem holds_separate_or :
    (or members).separate.holds satisfies =
      ((members.any fun member => !member.isNegated && member.separate.holds satisfies) &&
        members.all fun member => !member.isNegated || member.separate.holds satisfies) := by
  have conjunction := @holds_group satisfies .and
  have disjunction := @holds_group satisfies .or
  simp only [Connective.group, Connective.combine] at conjunction disjunction
  simp [separate, separateAll_eq_map, conjunction, disjunction, List.filter_map, Function.comp_def]

theorem sign_signed_of_not_negated {clause : Clause} (notNegated : clause.isNegated = false)
    (sign : Sign) : (clause.signed sign).sign = sign := by
  cases clause using group_induction with
  | term leaf => rfl
  | group connective members _ => rw [signed_group, SignedMember.sign]
  | not inner _ => cases notNegated

theorem sign_signed {clause : Clause} (reduced : clause.IsReduced) (sign : Sign) :
    (clause.signed sign).sign = if clause.isNegated then .prohibited else sign := by
  cases negated : clause.isNegated with
  | false => rw [sign_signed_of_not_negated negated, if_neg (by simp)]
  | true =>
      rcases exists_not_of_isNegated negated with ⟨inner, rfl⟩
      rcases isReduced_not.mp reduced with ⟨notNegated, _, _⟩
      rw [signed, sign_signed_of_not_negated notNegated, if_pos rfl]

/-- The signs of a group combine its members to what the separated group says, if a member without
its negation says so. -/
theorem combine_signed (guarded : (connective.group members).IsGuarded)
    (agree : ∀ member ∈ members, (member.signed connective.sign).holds satisfies =
      (member.separate.holds satisfies ^^ member.isNegated)) :
    Sign.combine (SignedMember.readings satisfies (members.map (signed connective.sign))) =
      (connective.group members).separate.holds satisfies := by
  rcases isGuarded_group.mp guarded with ⟨_, _, positive, membersGuarded⟩
  have readings : SignedMember.readings satisfies (members.map (signed connective.sign)) =
      members.map fun member =>
        (if member.isNegated then .prohibited else connective.sign,
          member.separate.holds satisfies ^^ member.isNegated) := by
    rw [SignedMember.readings_eq_map, List.map_map]
    apply List.map_congr_left
    intro member memberMem
    exact Prod.ext (sign_signed (membersGuarded member memberMem).toIsReduced connective.sign)
      (agree member memberMem)
  rw [readings]
  cases connective with
  | and => exact (Sign.combine_required positive).trans holds_separate_and.symm
  | or => exact Sign.combine_optional.trans holds_separate_or.symm

/-- A member without its sign says what the separated clause says without its negation. -/
theorem holds_signed {clause : Clause} (guarded : clause.IsGuarded) (sign : Sign) :
    (clause.signed sign).holds satisfies =
      (clause.separate.holds satisfies ^^ clause.isNegated) := by
  induction clause generalizing sign with
  | term leaf => simp [signed, separate, SignedMember.holds, holds]
  | group connective members ih =>
      rcases isGuarded_group.mp guarded with ⟨_, _, _, membersGuarded⟩
      have agree := combine_signed guarded fun member memberMem =>
        ih member memberMem (membersGuarded member memberMem) connective.sign
      rw [signed_group, SignedMember.holds, agree]
      simp
  | not inner ih =>
      -- the sign of the member stands for the negation, and the member is what it negates
      rcases isGuarded_not.mp guarded with ⟨notNegated, _, innerGuarded⟩
      rw [signed, ih innerGuarded .prohibited, notNegated]
      simp [separate, holds]

/-- The text of a canonical clause says what the clause does once its disjunctions are separated. -/
theorem reads_eq_holds_separate {clause : Clause} (canonical : clause.IsCanonical) :
    clause.reads satisfies = clause.separate.holds satisfies := by
  cases clause using group_induction with
  | term leaf => exact Sign.combine_singleton_optional (satisfies leaf)
  | group connective members _ =>
      have guarded := canonical.toIsGuarded
      rcases isGuarded_group.mp guarded with ⟨_, _, _, membersGuarded⟩
      rw [reads, written_group]
      exact combine_signed guarded fun member memberMem =>
        holds_signed (membersGuarded member memberMem) connective.sign
  | not inner _ => cases canonical.not_negated

theorem separate_or_of_isUnmixed (unmixed : (or members).IsUnmixed) :
    (or members).separate = and [or (members.map separate)] := by
  have positive : (members.map separate).filter (!·.isNegated) = members.map separate := by
    rw [List.filter_eq_self]
    intro alternative alternativeMem
    rcases List.mem_map.mp alternativeMem with ⟨member, memberMem, rfl⟩
    simp [unmixed member memberMem]
  have negative : (members.map separate).filter isNegated = [] := by
    rw [List.filter_eq_nil_iff]
    intro alternative alternativeMem
    rcases List.mem_map.mp alternativeMem with ⟨member, memberMem, rfl⟩
    simp [unmixed member memberMem]
  simp only [separate, separateAll_eq_map, positive, negative]

/-- Separating says nothing new of a clause whose disjunctions have no negated alternatives. -/
theorem holds_separate {clause : Clause} (unmixed : clause.Everywhere IsUnmixed) :
    clause.separate.holds satisfies = clause.holds satisfies := by
  induction clause with
  | term leaf => rfl
  | group connective members ih =>
      rcases everywhere_group.mp unmixed with ⟨unmixedHere, unmixedInside⟩
      have agree : (members.map separate).map (holds satisfies) =
          members.map (holds satisfies) := by
        rw [List.map_map]
        apply List.map_congr_left
        intro member memberMem
        exact ih member memberMem (unmixedInside member memberMem)
      have separates : (connective.group members).separate.holds satisfies =
          (connective.group (members.map separate)).holds satisfies := by
        cases connective with
        | and => rw [Connective.group, separate, separateAll_eq_map]
        | or =>
            rw [Connective.group, separate_or_of_isUnmixed unmixedHere]
            simp [holds, allHold]
      rw [separates, holds_group, agree, ← holds_group]
  | not inner ih =>
      rw [everywhere_not] at unmixed
      rw [separate, holds, ih unmixed.2, holds]

/-! ### Normal forms -/

variable {guardField : String}

/-- The text of a normal form shows its members with their signs. Read by these, it says what the
normal form does with its disjunctions separated, and that is what the clause means if no
disjunction of the normal form has a negated alternative. -/
theorem reads_normalize {clause : Clause} (full : clause.IsFull) :
    ∃ normalized, clause.normalize guardField = some normalized ∧
      SignedMember.topText normalized.clause.written = normalized.clause.text ∧
      ∀ item : Item guardField,
        normalized.clause.reads item.satisfies =
          normalized.clause.separate.holds item.satisfies ∧
        (normalized.clause.Everywhere IsUnmixed →
          normalized.clause.reads item.satisfies = clause.holds item.satisfies) := by
  have means (item : Item guardField) :
      (clause.normalize guardField).map (fun normalized => normalized.clause.holds item.satisfies) =
        some (clause.holds item.satisfies) := by
    rw [holds_normalize item, meaning_eq_some_holds full]
  rcases Option.map_eq_some_iff.mp (means default) with ⟨normalized, normalizes, _⟩
  have canonical := isCanonical_normalize guardField normalizes
  refine ⟨normalized, normalizes, topText_written canonical, ?_⟩
  intro item
  refine ⟨reads_eq_holds_separate canonical, ?_⟩
  intro unmixed
  have same := means item
  rw [normalizes, Option.map_some, Option.some.injEq] at same
  rw [reads_eq_holds_separate canonical, holds_separate unmixed, same]

/-- A disjunction of negations, one of them over a conjunction that has a negation as well, gets two
guards and is then unmixed. -/
theorem reads_normalize_negations :
    let clause := or [not (Term.reference "A" 1),
      not (and [Term.reference "B" 2, not (Term.reference "C" 3)])]
    ∃ normalized, clause.IsFull ∧ normalized.clause.Everywhere IsUnmixed ∧
      clause.normalize "Id" = some normalized ∧
      SignedMember.topText normalized.clause.written = normalized.clause.text ∧
      ∀ item : Item "Id",
        normalized.clause.reads item.satisfies = clause.holds item.satisfies := by
  intro clause
  have full : clause.IsFull := by decide
  rcases @reads_normalize "Id" clause full with ⟨normalized, normalizes, written, reads⟩
  have unmixed : normalized.clause.Everywhere IsUnmixed := by
    cases normalizes
    decide
  exact ⟨normalized, full, unmixed, normalizes, written, fun item => (reads item).2 unmixed⟩

/-- The text of a disjunction that mixes a negated alternative with another one asks for both of
them. -/
theorem reads_mixed_disjunction :
    let clause := or [Term.reference "A" 1, not (Term.reference "B" 2)]
    clause.IsFull ∧ clause.normalize "Id" = some ⟨clause, false⟩ ∧ clause.text = "A:1 -B:2" ∧
      SignedMember.topText clause.written = clause.text ∧
      ∃ item : Item "Id",
        clause.holds item.satisfies = true ∧ clause.reads item.satisfies = false := by
  intro clause
  exact ⟨by decide, rfl, by decide, rfl, default, rfl, rfl⟩

end Clause

end ContentQuery
