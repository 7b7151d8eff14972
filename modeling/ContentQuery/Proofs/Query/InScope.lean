import ContentQuery.Proofs.Clause.Terms
import ContentQuery.Proofs.Query.Meaning
import ContentQuery.Proofs.Scope.Meaning

/-!
# Compiled queries in a scope

A query is lowered, put into its scope, and given the presence guard for want of a predicate. A
scope adds to a predicate in normal form without normalizing the result again, so this file says
what is left of the normal form, and how the predicate in a scope compares with the one without.
-/

namespace ContentQuery

namespace Clause

/-! ### Proper clauses -/

/-- What a scope keeps of the normal form: all but the flatness of groups. -/
structure IsProper (clause : Clause) : Prop where
  two_members : clause.Everywhere HasTwoMembers
  resolved : clause.Everywhere IsResolved
  positive_members : clause.Everywhere HasPositiveMember

/-- A proper clause that can stand alone. -/
structure IsSearchable (clause : Clause) : Prop extends IsProper clause where
  not_negated : clause.isNegated = false

variable {clause : Clause} {connective : Connective} {members : List Clause}

theorem IsGuarded.isProper (guarded : clause.IsGuarded) : clause.IsProper :=
  ⟨guarded.two_members, guarded.resolved, guarded.positive_members⟩

theorem isProper_term (leaf : Term) : (term leaf).IsProper :=
  (isGuarded_term leaf).isProper

theorem isSearchable_term (leaf : Term) : (term leaf).IsSearchable :=
  ⟨isProper_term leaf, rfl⟩

theorem IsCanonical.isSearchable (canonical : clause.IsCanonical) : clause.IsSearchable :=
  ⟨canonical.toIsGuarded.isProper, canonical.not_negated⟩

theorem isProper_group :
    (connective.group members).IsProper ↔
      2 ≤ members.length ∧ (∃ member ∈ members, member.isNegated = false) ∧
        ∀ member ∈ members, member.IsProper := by
  constructor
  · rintro ⟨sized, resolved, positive⟩
    rw [everywhere_group] at sized resolved positive
    refine ⟨hasTwoMembers_group.mp sized.1, hasPositiveMember_group.mp positive.1, ?_⟩
    intro member memberMem
    exact ⟨sized.2 member memberMem, resolved.2 member memberMem, positive.2 member memberMem⟩
  · rintro ⟨sized, positive, proper⟩
    constructor
    · exact everywhere_group.mpr
        ⟨hasTwoMembers_group.mpr sized, fun member memberMem => (proper member memberMem).1⟩
    · exact everywhere_group.mpr
        ⟨isResolved_group, fun member memberMem => (proper member memberMem).2⟩
    · exact everywhere_group.mpr
        ⟨hasPositiveMember_group.mpr positive, fun member memberMem => (proper member memberMem).3⟩

theorem isSearchable_group (proper : (connective.group members).IsProper) :
    (connective.group members).IsSearchable := by
  refine ⟨proper, ?_⟩
  cases connective <;> rfl

/-- A searchable clause takes a term beside it into one group, whether the clause is such a group
itself or becomes a member of one. -/
theorem isSearchable_splice (searchable : clause.IsSearchable) (leaf : Term) :
    (connective.group (connective.splice (some clause) ++ [term leaf])).IsSearchable := by
  apply isSearchable_group
  have parts : 0 < (connective.splice (some clause)).length ∧
      ∀ member ∈ connective.splice (some clause), member.IsProper := by
    cases same : clause.isGroupOf connective with
    | true =>
        rcases exists_group_of_isGroupOf same with ⟨members, rfl⟩
        rcases isProper_group.mp searchable.toIsProper with ⟨sized, _, proper⟩
        rw [splice_group]
        exact ⟨by omega, proper⟩
    | false =>
        rw [splice_some_of_isGroupOf_eq_false same]
        simp [searchable.toIsProper]
  refine isProper_group.mpr ⟨?_, ⟨term leaf, by simp, rfl⟩, ?_⟩
  · rw [List.length_append, List.length_singleton]
    omega
  · simp only [List.forall_mem_append, List.forall_mem_singleton]
    exact ⟨parts.2, isProper_term leaf⟩

theorem isSearchable_pair (searchable : clause.IsSearchable) (leaf : Term) :
    (connective.group [clause, term leaf]).IsSearchable := by
  apply isSearchable_group
  refine isProper_group.mpr ⟨by simp, ⟨term leaf, by simp, rfl⟩, ?_⟩
  simp [searchable.toIsProper, isProper_term]

theorem IsProper.isFull (proper : clause.IsProper) : clause.IsFull :=
  isFull_of_hasTwoMembers proper.two_members

end Clause

namespace Scope

open Clause

variable {scope : Scope} {predicate : Option Clause}

theorem isSearchable_addRaw (searchable : ∀ clause ∈ predicate, clause.IsSearchable)
    (raw : Term) : (addRaw raw predicate).IsSearchable := by
  cases predicate with
  | none => exact isSearchable_term raw
  | some predicate =>
      rw [addRaw_some]
      exact isSearchable_splice (searchable predicate rfl) raw

theorem isSearchable_addPath (searchable : ∀ clause ∈ predicate, clause.IsSearchable)
    (usage : PathUsage) (path : Term) : (addPath usage path predicate).IsSearchable := by
  cases predicate with
  | none => exact isSearchable_term path
  | some predicate =>
      rw [addPath_some]
      exact isSearchable_pair (searchable predicate rfl) path

/-- A scope keeps its predicate searchable, though the result is not normalized. -/
theorem isSearchable_of_combine {query combined : CompiledQuery}
    (combines : scope.combine query = .ok combined)
    (searchable : ∀ clause ∈ query.predicate, clause.IsSearchable) :
    ∀ clause ∈ combined.predicate, clause.IsSearchable := by
  rcases combine_eq_ok.mp combines with ⟨raw, path, _, _, rfl⟩
  have joined : ∀ clause ∈ joinRaw raw query.predicate, clause.IsSearchable := by
    cases raw with
    | none => exact searchable
    | some raw =>
        intro clause clauseMem
        cases clauseMem
        exact isSearchable_addRaw searchable raw
  cases path with
  | none => exact joined
  | some path =>
      intro clause clauseMem
      cases clauseMem
      exact isSearchable_addPath joined scope.pathUsage path

end Scope

namespace Query

open Clause

variable {context : Context} {scope : Scope} {query : Query}

/-! ### Stages of a compilation -/

/-- A compilation in a scope succeeds with the query in its scope, which is guarded for want of a
predicate. -/
theorem compileIn_eq_ok {compilation : Compilation} :
    query.compileIn context scope = .ok compilation ↔
      ∃ lowered combined, query.lower context = .ok lowered ∧
        scope.combine lowered.query = .ok combined ∧
        compilation =
          { query :=
              { combined with
                predicate :=
                  some (combined.predicate.getD (presenceGuard context.options.guardField)) }
            guarded := combined.predicate.isNone || lowered.guarded } := by
  simp only [compileIn, bind_eq_ok, mapError_eq_ok]
  constructor
  · rintro ⟨lowered, lowers, combined, combines, built⟩
    refine ⟨lowered, combined, lowers, combines, ?_⟩
    rcases combined with ⟨_ | predicate, sort, page, flags⟩ <;> cases built <;> rfl
  · rintro ⟨lowered, combined, lowers, combines, rfl⟩
    refine ⟨lowered, lowers, combined, combines, ?_⟩
    rcases combined with ⟨_ | predicate, sort, page, flags⟩ <;> rfl

theorem outcome_eq_ok {compilation : Compilation} :
    query.outcome context scope = .ok compilation ↔
      query.compileIn context scope = .ok compilation ∧ compilation.query.isPrintable = true := by
  rw [outcome, bind_eq_ok]
  constructor
  · rintro ⟨candidate, compiles, printed⟩
    split at printed
    · cases printed
      exact ⟨compiles, ‹_›⟩
    · cases printed
  · rintro ⟨compiles, printable⟩
    exact ⟨compilation, compiles, if_pos printable⟩

theorem compile_eq_map :
    query.compile context scope = (query.outcome context scope).map Compilation.compiledText := by
  rw [compile]
  cases query.outcome context scope <;> rfl

theorem compile_eq_ok {text : CompiledText} :
    query.compile context scope = .ok text ↔
      ∃ compilation, query.outcome context scope = .ok compilation ∧
        compilation.compiledText = text := by
  rw [compile, bind_eq_ok]
  simp [pure, Except.pure]

/-! ### Shape of the compiled predicate -/

theorem isSearchable_of_lower {lowered : Compilation}
    (lowers : query.lower context = .ok lowered) :
    ∀ clause ∈ lowered.query.predicate, clause.IsSearchable := by
  rcases lower_eq_ok.mp lowers with ⟨predicate, normalized, sort, _, normal, _, rfl⟩
  intro clause clauseMem
  rcases Option.map_eq_some_iff.mp clauseMem with ⟨form, rfl, rfl⟩
  cases predicate with
  | constant value => cases value <;> cases normal
  | clause inner =>
      apply IsCanonical.isSearchable
      exact isCanonical_normalize context.options.guardField (Except.ok.inj normal)

theorem exists_isSearchable_of_compileIn {compilation : Compilation}
    (compiles : query.compileIn context scope = .ok compilation) :
    ∃ clause, compilation.query.predicate = some clause ∧ clause.IsSearchable := by
  rcases compileIn_eq_ok.mp compiles with ⟨lowered, combined, lowers, combines, rfl⟩
  refine ⟨_, rfl, ?_⟩
  have searchable := Scope.isSearchable_of_combine combines (isSearchable_of_lower lowers)
  cases restricted : combined.predicate with
  | none => exact isSearchable_term _
  | some clause => exact searchable clause restricted

/-- A compiled query always has a predicate with a term in it, whatever the scope. The predicate is
no negation, its groups have two members or more and some that is not negated, and its negations
stand over clauses that are neither negations nor boolean terms. -/
theorem parts_of_compile {text : CompiledText}
    (compiles : query.compile context scope = .ok text) :
    ∃ compilation clause, query.compileIn context scope = .ok compilation ∧
      compilation.compiledText = text ∧
      compilation.query.predicate = some clause ∧
      clause.terms ≠ [] ∧
      clause.isNegated = false ∧
      (∀ connective members, Connective.group connective members ∈ clause.parts →
        2 ≤ members.length ∧ ∃ member ∈ members, member.isNegated = false) ∧
      ∀ inner, Clause.not inner ∈ clause.parts →
        inner.isNegated = false ∧ inner.isBoolean = false := by
  rcases compile_eq_ok.mp compiles with ⟨compilation, compilesTo, prints⟩
  have compilesIn := (outcome_eq_ok.mp compilesTo).1
  rcases exists_isSearchable_of_compileIn compilesIn with ⟨clause, present, searchable⟩
  refine ⟨compilation, clause, compilesIn, prints, present,
    searchable.isFull.terms_ne_nil, searchable.not_negated, ?_, ?_⟩
  · intro connective members groupMem
    exact ⟨hasTwoMembers_group.mp (searchable.two_members _ groupMem),
      hasPositiveMember_group.mp (searchable.positive_members _ groupMem)⟩
  · intro inner notMem
    exact searchable.resolved _ notMem

/-- A conjunction of two negations takes a guard and the raw query, and the folder takes it as one
member. -/
theorem parts_of_compile_negations :
    let query : Query :=
      { predicate := some (.binary .and (.binary .ne (.field "A") (.constant (.int 1)))
          (.binary .ne (.field "B") (.constant (.int 2)))) }
    let context : Context := ⟨.empty, .empty, { unknownFields := .infer }, .epoch⟩
    let scope : Scope :=
      { pathUsage := .inFolderAnd, basePath := some "/root", rawQuery := some "C:3" }
    let clause : Clause :=
      .and [.and [.not (Term.equality "B" (.int 2)), .not (Term.equality "A" (.int 1)),
        presenceGuard "Id", Term.raw "C:3"], Term.scope .inFolder "/root"]
    query.compile context scope =
        .ok ⟨"+(-B:2 -A:1 +Id:>0 +C:3) +InFolder:/root", .default⟩ ∧
      query.compileIn context scope = .ok ⟨{ predicate := some clause }, true⟩ ∧
      clause.isNegated = false ∧
      (∀ connective members, Connective.group connective members ∈ clause.parts →
        2 ≤ members.length ∧ ∃ member ∈ members, member.isNegated = false) ∧
      ∀ inner, Clause.not inner ∈ clause.parts →
        inner.isNegated = false ∧ inner.isBoolean = false := by
  intro query context scope clause
  have compilesIn :
      query.compileIn context scope = .ok ⟨{ predicate := some clause }, true⟩ := rfl
  have compiles : query.compile context scope =
      .ok ⟨"+(-B:2 -A:1 +Id:>0 +C:3) +InFolder:/root", .default⟩ := by
    refine compile_eq_ok.mpr ⟨_, outcome_eq_ok.mpr ⟨compilesIn, by decide⟩, ?_⟩
    decide
  rcases parts_of_compile compiles with
    ⟨_, _, compilesTo, _, present, _, notNegated, groups, negations⟩
  cases compilesIn.symm.trans compilesTo
  cases present
  exact ⟨compiles, compilesIn, notNegated, groups, negations⟩

/-! ### Folders as alternatives -/

theorem isFull_toPredicate {predicate : Predicate}
    (given : query.toPredicate context = .ok predicate) : predicate.IsFull := by
  simp only [toPredicate] at given
  split at given
  · exact Predicate.isFull_ofExpr given
  · cases given
    trivial

/-- A query loses its predicate exactly if it is absent or always true. -/
theorem predicate_eq_none_iff {lowered : Compilation}
    (lowers : query.lower context = .ok lowered) :
    lowered.query.predicate = none ↔ query.toPredicate context = .ok (.constant true) := by
  rcases lower_eq_ok.mp lowers with ⟨predicate, normalized, sort, given, normal, _, rfl⟩
  rw [given]
  cases predicate with
  | constant value =>
      cases value with
      | true => simp [← Except.ok.inj normal]
      | false => cases normal
  | clause inner =>
      have full : inner.IsFull := isFull_toPredicate given
      have meant := holds_normalize (default : Item context.options.guardField) inner
      rw [meaning_eq_some_holds full, Except.ok.inj normal] at meant
      cases normalized with
      | none => cases meant
      | some form => simp

theorem combine_default (compiled : CompiledQuery) : ({} : Scope).combine compiled = .ok compiled :=
  rfl

/-- Under a scope whose folder is an alternative, the predicate is an alternative to the folder, or
the folder stands alone for want of a predicate. -/
theorem exists_folder_of_combine {compiled combined : CompiledQuery}
    (alternative : scope.pathUsage = .inFolderOr) (noRaw : scope.rawQuery = none)
    (combines : scope.combine compiled = .ok combined) :
    ∃ path ∈ scope.basePath, combined.predicate =
      some (compiled.predicate.elim (term (Scope.folderTerm path)) fun clause =>
        .or [clause, term (Scope.folderTerm path)]) := by
  have used : scope.pathUsage ≠ .none := by simp [alternative]
  rcases Scope.exists_group_of_combine combines used with ⟨unplaced, path, based, without, placed⟩
  have unchanged : unplaced.predicate = compiled.predicate := by
    rcases Scope.combine_eq_ok.mp without with ⟨raw, _, reads, places, rfl⟩
    cases places
    rw [(Scope.rawTerm?_eq_ok.mp reads).2]
    simp [noRaw, Scope.joinRaw, Scope.joinPath]
  rw [unchanged, alternative] at placed
  exact ⟨path, based, placed⟩

/-- A folder as an alternative widens a query exactly if the filter of the query is neither
absent nor always true. Otherwise the query matches every item, and in the scope those of the
folder alone. -/
theorem widens_iff {compilation : Compilation} (alternative : scope.pathUsage = .inFolderOr)
    (noRaw : scope.rawQuery = none) (compiles : query.compileIn context scope = .ok compilation) :
    ∃ unscoped clause widened, query.compileIn context {} = .ok unscoped ∧
      unscoped.query.predicate = some clause ∧ compilation.query.predicate = some widened ∧
      ((∀ satisfies : Term → Bool,
          (presenceGuard context.options.guardField).holds satisfies = true →
            clause.holds satisfies = true → widened.holds satisfies = true) ↔
        query.toPredicate context ≠ .ok (.constant true)) ∧
      (query.toPredicate context = .ok (.constant true) →
        clause = presenceGuard context.options.guardField ∧
          ∃ path ∈ scope.basePath, widened = Scope.folderTerm path) := by
  rcases compileIn_eq_ok.mp compiles with ⟨lowered, combined, lowers, combines, rfl⟩
  rcases exists_folder_of_combine alternative noRaw combines with ⟨path, based, restricted⟩
  have compilesAlone := compileIn_eq_ok.mpr ⟨lowered, _, lowers, combine_default _, rfl⟩
  refine ⟨_, _, _, compilesAlone, rfl, rfl, ?_⟩
  have lost := predicate_eq_none_iff lowers
  rw [restricted]
  cases present : lowered.query.predicate with
  | some clause =>
      have kept : query.toPredicate context ≠ .ok (.constant true) := by
        simp [← lost, present]
      refine ⟨iff_of_true ?_ kept, fun always => absurd always kept⟩
      intro satisfies _ clauseHolds
      have clauseHolds : clause.holds satisfies = true := clauseHolds
      simp [holds, anyHolds, clauseHolds]
  | none =>
      have always := lost.mp present
      refine ⟨iff_of_false ?_ (not_not_intro always), fun _ => ⟨rfl, path, based, rfl⟩⟩
      intro widens
      -- an item that passes the guard, but lies in no folder
      let satisfies := Term.isPresenceGuard context.options.guardField
      have guarded : (presenceGuard context.options.guardField).holds satisfies = true :=
        (countsGuards_isPresenceGuard context.options.guardField).guard
      have outside : (Scope.folderTerm path : Clause).holds satisfies = true :=
        widens satisfies guarded guarded
      cases outside

/-- A folder widens a filter by a field; beside no filter it is all that is left. -/
theorem widens_iff_field :
    let context : Context := ⟨.empty, .empty, { unknownFields := .infer }, .epoch⟩
    let scope := Scope.inFolderOr "/root"
    let folder : Clause := Term.scope .inFolder "/root"
    let field : Clause := Term.boolean "A" true
    (compileIn context scope { predicate := some (.field "A") } =
        .ok ⟨{ predicate := some (.or [field, folder]) }, false⟩ ∧
      ∀ satisfies : Term → Bool, (presenceGuard "Id").holds satisfies = true →
        field.holds satisfies = true → (Clause.or [field, folder]).holds satisfies = true) ∧
    compileIn context {} {} = .ok ⟨{ predicate := some (presenceGuard "Id") }, true⟩ ∧
      compileIn context scope {} = .ok ⟨{ predicate := some folder }, false⟩ ∧
      ¬ ∀ satisfies : Term → Bool, (presenceGuard "Id").holds satisfies = true →
        (presenceGuard "Id").holds satisfies = true → folder.holds satisfies = true := by
  intro context scope folder field
  have filtered : compileIn context scope { predicate := some (.field "A") } =
      .ok ⟨{ predicate := some (.or [field, folder]) }, false⟩ := rfl
  have unfiltered : compileIn context scope {} = .ok ⟨{ predicate := some folder }, false⟩ := rfl
  refine ⟨⟨filtered, ?_⟩, rfl, unfiltered, ?_⟩
  · rcases widens_iff rfl rfl filtered with ⟨_, _, _, alone, present, widened, widens, _⟩
    cases alone
    cases present
    cases widened
    exact widens.mpr nofun
  · rcases widens_iff rfl rfl unfiltered with ⟨_, _, _, alone, present, widened, widens, _⟩
    cases alone
    cases present
    cases widened
    exact fun always => widens.mp always rfl

end Query

end ContentQuery
