import ContentQuery.Scope.Combine
import ContentQuery.Proofs.Clause.Meaning
import ContentQuery.Proofs.Outcome

/-!
# Meaning of scopes

A scope changes which content items a query matches, and it overrides the page and the autofilters.
`Scope.admits` says what a scope makes of the truth value of a predicate.

The main statement is that a query in a scope matches just the items that the scope admits. The one
exception is a query without a predicate, which matches everything, beside a folder that is an
alternative to it: there the folder alone is left.
-/

namespace ContentQuery

/-- The query matches an item of which the given terms hold. Without a predicate it matches every
item. -/
def CompiledQuery.holds (satisfies : Term → Bool) (query : CompiledQuery) : Bool :=
  query.predicate.all (Clause.holds satisfies)

/-- The errors of a scope that cannot be used. -/
def CompileError.IsOfScope : CompileError → Prop
  | invalidScope _ => True
  | _ => False

/-- How a folder is joined to a predicate. -/
def PathUsage.connective : PathUsage → Connective
  | inFolderOr => .or
  | none | inFolderAnd => .and

namespace Scope

open Clause

def rawTerm (raw : String) : Term :=
  .raw (Text.trim raw)

def folderTerm (path : String) : Term :=
  .scope .inFolder (Text.lower (Text.trim path))

/-- What the scope makes of the truth value of a predicate. -/
def admits (scope : Scope) (satisfies : Term → Bool) (predicateHolds : Bool) : Bool :=
  let restricted := predicateHolds && scope.rawQuery.all fun raw => satisfies (rawTerm raw)
  let inFolder := scope.basePath.any fun path => satisfies (folderTerm path)
  match scope.pathUsage with
  | .none => restricted
  | .inFolderAnd => restricted && inFolder
  | .inFolderOr => restricted || inFolder

variable {scope : Scope} {satisfies : Term → Bool}

/-! ### The parts of a scope -/

theorem rawTerm?_eq_ok {raw : Option Term} :
    scope.rawTerm? = .ok raw ↔
      (∀ text ∈ scope.rawQuery, Text.isBlankText text = false) ∧
        raw = scope.rawQuery.map rawTerm := by
  simp only [rawTerm?]
  cases scope.rawQuery with
  | none => simp [@eq_comm _ raw]
  | some text => cases blank : Text.isBlankText text <;> simp [blank, rawTerm, @eq_comm _ raw]

theorem pathTerm?_eq_ok {path : Option Term} :
    scope.pathTerm? = .ok path ↔
      (scope.pathUsage = .none ∧ path = none) ∨
        (scope.pathUsage ≠ .none ∧ ∃ folder ∈ scope.basePath,
          Text.isBlankText folder = false ∧ path = some (folderTerm folder)) := by
  simp only [pathTerm?]
  cases usage : scope.pathUsage with
  | none => simp [@eq_comm _ path]
  | inFolderAnd | inFolderOr =>
      cases scope.basePath with
      | none => simp
      | some folder =>
          cases blank : Text.isBlankText folder <;> simp [blank, folderTerm, @eq_comm _ path]

def joinRaw (raw : Option Term) (predicate : Option Clause) : Option Clause :=
  raw.elim predicate fun raw => some (addRaw raw predicate)

def joinPath (usage : PathUsage) (path : Option Term) (predicate : Option Clause) : Option Clause :=
  path.elim predicate fun path => some (addPath usage path predicate)

/-- All that a scope does to a query. -/
theorem combine_eq_ok {query combined : CompiledQuery} :
    scope.combine query = .ok combined ↔
      ∃ raw path, scope.rawTerm? = .ok raw ∧ scope.pathTerm? = .ok path ∧
        combined =
          { predicate := joinPath scope.pathUsage path (joinRaw raw query.predicate)
            sort := query.sort
            page :=
              { skip := scope.skip.or query.page.skip
                top := scope.top.or query.page.top }
            flags :=
              { query.flags with
                autofilters := scope.autofilters.getD query.flags.autofilters } } := by
  simp only [combine, bind_eq_ok]
  constructor
  · rintro ⟨raw, reads, path, places, built⟩
    cases built
    exact ⟨raw, path, reads, places, rfl⟩
  · rintro ⟨raw, path, reads, places, rfl⟩
    exact ⟨raw, reads, path, places, rfl⟩

/-- A scope that cannot be used is the only reason why a query has no form in a scope. -/
theorem failsWithin_combine (scope : Scope) (query : CompiledQuery) :
    FailsWithin CompileError.IsOfScope (scope.combine query) := by
  have rawWithin : FailsWithin CompileError.IsOfScope scope.rawTerm? := by
    simp only [rawTerm?]
    split
    · exact .ok _
    · split
      · exact .error trivial
      · exact .ok _
  have pathWithin : FailsWithin CompileError.IsOfScope scope.pathTerm? := by
    simp only [pathTerm?]
    split
    · exact .ok _
    · exact .error trivial
    · split
      · exact .error trivial
      · exact .ok _
  apply rawWithin.bind
  intro raw
  exact pathWithin.bind fun path => .ok _

/-- The raw query of the scope is blank, or its folder is missing or blank. -/
def IsUnusable (scope : Scope) : Prop :=
  (∃ raw ∈ scope.rawQuery, Text.isBlankText raw = true) ∨
    (scope.pathUsage ≠ .none ∧ ∀ path ∈ scope.basePath, Text.isBlankText path = true)

/-- A query has a form in just those scopes that can be used, whatever the query. -/
theorem exists_combine_iff {query : CompiledQuery} :
    (∃ combined, scope.combine query = .ok combined) ↔ ¬ scope.IsUnusable := by
  constructor
  · rintro ⟨combined, combines⟩ unusable
    rcases combine_eq_ok.mp combines with ⟨raw, path, reads, places, _⟩
    rcases unusable with ⟨text, textMem, blank⟩ | ⟨used, allBlank⟩
    · exact absurd ((rawTerm?_eq_ok.mp reads).1 text textMem) (by simp [blank])
    · rcases pathTerm?_eq_ok.mp places with ⟨unused, _⟩ | ⟨_, folder, based, notBlank, _⟩
      · exact used unused
      · exact absurd notBlank (by simp [allBlank folder based])
  · intro usable
    simp only [IsUnusable, not_or, not_exists, not_and, Bool.not_eq_true] at usable
    rcases usable with ⟨rawUsable, pathUsable⟩
    have reads := rawTerm?_eq_ok.mpr ⟨rawUsable, rfl⟩
    have places : ∃ path, scope.pathTerm? = .ok path := by
      by_cases unused : scope.pathUsage = .none
      · exact ⟨none, pathTerm?_eq_ok.mpr (.inl ⟨unused, rfl⟩)⟩
      · have based := pathUsable unused
        push Not at based
        rcases based with ⟨folder, based, notBlank⟩
        have folderUsable := (Bool.not_eq_true _).mp notBlank
        exact ⟨_, pathTerm?_eq_ok.mpr (.inr ⟨unused, folder, based, folderUsable, rfl⟩)⟩
    rcases places with ⟨path, places⟩
    exact ⟨_, combine_eq_ok.mpr ⟨_, path, reads, places, rfl⟩⟩

/-! ### Parts side by side -/

theorem addRaw_some (raw : Term) (predicate : Clause) :
    addRaw raw (some predicate) =
      Connective.and.group (Connective.and.splice (some predicate) ++ [term raw]) := by
  cases predicate <;> rfl

theorem addPath_some (usage : PathUsage) (path : Term) (predicate : Clause) :
    addPath usage path (some predicate) = usage.connective.group [predicate, term path] := by
  cases usage <;> rfl

/-! ### Truth values -/

theorem holds_addRaw (raw : Term) (predicate : Option Clause) :
    (addRaw raw predicate).holds satisfies =
      (predicate.all (Clause.holds satisfies) && satisfies raw) := by
  cases predicate with
  | none => rfl
  | some predicate =>
      rw [addRaw_some, holds_group, List.map_append, Connective.combine_append, combine_splice,
        List.map_singleton, Connective.combine_singleton]
      rfl

theorem holds_addPath_some (usage : PathUsage) (path : Term) (predicate : Clause) :
    (addPath usage path (some predicate)).holds satisfies =
      usage.connective.join (predicate.holds satisfies) (satisfies path) := by
  rw [addPath_some, holds_group, List.map_cons, Connective.combine_cons, List.map_singleton,
    Connective.combine_singleton, Clause.holds]

theorem all_joinRaw (raw : Option Term) (predicate : Option Clause) :
    (joinRaw raw predicate).all (Clause.holds satisfies) =
      (predicate.all (Clause.holds satisfies) && raw.all satisfies) := by
  cases raw with
  | none => simp [joinRaw]
  | some raw => simp [joinRaw, holds_addRaw]

theorem all_joinPath_some (usage : PathUsage) (path : Term) (predicate : Clause) :
    (joinPath usage (some path) (some predicate)).all (Clause.holds satisfies) =
      usage.connective.join (predicate.holds satisfies) (satisfies path) :=
  holds_addPath_some usage path predicate

/-- Without a predicate beside it a folder is the whole predicate. -/
theorem all_joinPath_none (usage : PathUsage) (path : Term) :
    (joinPath usage (some path) none).all (Clause.holds satisfies) = satisfies path := by
  simp [joinPath, addPath, holds]

theorem joinRaw_eq_none {raw : Option Term} {predicate : Option Clause} :
    joinRaw raw predicate = none ↔ raw = none ∧ predicate = none := by
  cases raw <;> simp [joinRaw]

theorem all_map_rawTerm :
    (scope.rawQuery.map rawTerm).all satisfies =
      scope.rawQuery.all fun raw => satisfies (rawTerm raw) := by
  rw [Option.all_map]

/-- A query in a scope matches what the scope admits, if the folder has something to stand beside or
is a restriction. -/
theorem holds_eq_admits {query combined : CompiledQuery}
    (combines : scope.combine query = .ok combined)
    (anchored : query.predicate.isSome ∨ scope.rawQuery.isSome ∨ scope.pathUsage ≠ .inFolderOr) :
    combined.holds satisfies = scope.admits satisfies (query.holds satisfies) := by
  rcases combine_eq_ok.mp combines with ⟨raw, path, reads, places, rfl⟩
  rcases rawTerm?_eq_ok.mp reads with ⟨_, rfl⟩
  have restricted := @all_joinRaw satisfies (scope.rawQuery.map rawTerm) query.predicate
  rw [all_map_rawTerm] at restricted
  rcases pathTerm?_eq_ok.mp places with ⟨unused, rfl⟩ | ⟨used, folder, based, _, rfl⟩
  · simp only [CompiledQuery.holds, admits, unused]
    exact restricted
  · rw [Option.mem_def] at based
    cases joined : joinRaw (scope.rawQuery.map rawTerm) query.predicate with
    | some predicate =>
        rw [joined, Option.all_some] at restricted
        simp only [CompiledQuery.holds, admits, all_joinPath_some, restricted, based]
        cases usage : scope.pathUsage with
        | none => exact absurd usage used
        | inFolderAnd | inFolderOr => rfl
    | none =>
        -- nothing stands beside the folder, which leaves conjunction
        rcases joinRaw_eq_none.mp joined with ⟨noRaw, noPredicate⟩
        rw [Option.map_eq_none_iff] at noRaw
        have usage : scope.pathUsage = .inFolderAnd := by
          cases usage : scope.pathUsage <;> simp_all
        simp [CompiledQuery.holds, admits, all_joinPath_none, noPredicate, noRaw, usage, based]

/-- The folder is put beside what the scope gives without it, which stays one member. -/
theorem exists_group_of_combine {query combined : CompiledQuery}
    (combines : scope.combine query = .ok combined) (used : scope.pathUsage ≠ .none) :
    ∃ unplaced, ∃ path ∈ scope.basePath,
      { scope with pathUsage := .none }.combine query = .ok unplaced ∧
        combined.predicate = some (unplaced.predicate.elim (term (folderTerm path)) fun predicate =>
          scope.pathUsage.connective.group [predicate, term (folderTerm path)]) := by
  rcases combine_eq_ok.mp combines with ⟨raw, path, reads, places, rfl⟩
  rcases pathTerm?_eq_ok.mp places with ⟨unused, _⟩ | ⟨_, folder, based, _, rfl⟩
  · exact absurd unused used
  · refine ⟨_, folder, based, combine_eq_ok.mpr ⟨raw, none, reads, rfl, rfl⟩, ?_⟩
    cases joined : joinRaw raw query.predicate with
    | none => simp [joinPath, addPath]
    | some predicate => simp [joinPath, addPath_some]

/-- A query in a scope matches what the scope admits, unless the folder is an alternative with
nothing to stand beside. The folder takes all that stands beside it as one member, the scope
overrides the page and the autofilters, and nothing else changes. -/
theorem holds_combine {query combined : CompiledQuery}
    (combines : scope.combine query = .ok combined) :
    (query.predicate.isSome ∨ scope.rawQuery.isSome ∨ scope.pathUsage ≠ .inFolderOr →
        ∀ satisfies, combined.holds satisfies = scope.admits satisfies (query.holds satisfies)) ∧
      (scope.pathUsage ≠ .none → ∃ unplaced, ∃ path ∈ scope.basePath,
        { scope with pathUsage := .none }.combine query = .ok unplaced ∧
          combined.predicate =
            some (unplaced.predicate.elim (term (folderTerm path)) fun predicate =>
              scope.pathUsage.connective.group [predicate, term (folderTerm path)])) ∧
      combined.sort = query.sort ∧
      combined.flags.lifespan = query.flags.lifespan ∧
      combined.flags.executionMode = query.flags.executionMode ∧
      combined.page.skip = scope.skip.or query.page.skip ∧
      combined.page.top = scope.top.or query.page.top ∧
      combined.flags.autofilters = scope.autofilters.getD query.flags.autofilters := by
  refine ⟨?_, exists_group_of_combine combines, ?_⟩
  · intro anchored satisfies
    exact holds_eq_admits combines anchored
  · rcases combine_eq_ok.mp combines with ⟨raw, path, _, _, rfl⟩
    exact ⟨rfl, rfl, rfl, rfl, rfl, rfl⟩

/-- A disjunction, restricted by a raw query and widened by a folder. -/
theorem holds_combine_widened :
    let alternatives := Clause.or [Term.reference "A" 1, Term.reference "B" 2]
    let query : CompiledQuery := { predicate := some alternatives, page := { top := some 5 } }
    let scope : Scope :=
      { pathUsage := .inFolderOr, basePath := some " /Root ", rawQuery := some "Id:>4 ",
        skip := some 18 }
    ∃ combined, scope.combine query = .ok combined ∧
      combined.predicate = some (.or [.and [alternatives, Term.raw "Id:>4"],
        Term.scope .inFolder "/root"]) ∧
      (∀ satisfies, combined.holds satisfies = scope.admits satisfies (query.holds satisfies)) ∧
      combined.page = ⟨some 18, some 5⟩ := by
  intro alternatives query scope
  have combines : scope.combine query = .ok
      { predicate := some (.or [.and [alternatives, Term.raw "Id:>4"],
          Term.scope .inFolder "/root"])
        page := ⟨some 18, some 5⟩ } := rfl
  refine ⟨_, combines, rfl, ?_, rfl⟩
  exact (holds_combine combines).1 (.inl rfl)

end Scope

end ContentQuery
