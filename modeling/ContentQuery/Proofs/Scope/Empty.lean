import ContentQuery.Proofs.Scope.Meaning
import ContentQuery.Telemetry.Recorder

/-!
# Empty scopes

A scope is empty if it leaves every query as it is. Whatever else a scope holds can be seen in a
query: a raw query or a folder in one without a predicate, an override in one that sets nothing or
the opposite. A base path that is not used changes nothing.

The main statement also says that a compilation is reported as one in a scope unless the scope is
empty.
-/

namespace ContentQuery

namespace Scope

variable {scope : Scope}

theorem isEmpty_iff :
    scope.isEmpty = true ↔
      scope.pathUsage = .none ∧ scope.rawQuery = none ∧ scope.skip = none ∧ scope.top = none ∧
        scope.autofilters = none := by
  simp [isEmpty, and_assoc]

theorem combine_of_isEmpty (empty : scope.isEmpty = true) (query : CompiledQuery) :
    scope.combine query = .ok query := by
  rcases isEmpty_iff.mp empty with ⟨noUsage, noRaw, noSkip, noTop, noMode⟩
  rw [combine_eq_ok]
  refine ⟨none, none, ?_, ?_, ?_⟩
  · simp [rawTerm?_eq_ok, noRaw]
  · simp [pathTerm?_eq_ok, noUsage]
  · simp [joinPath, joinRaw, noSkip, noTop, noMode]

/-! ### What a scope shows in a query -/

theorem joinPath_eq_none {usage : PathUsage} {path : Option Term} {predicate : Option Clause} :
    joinPath usage path predicate = none ↔ path = none ∧ predicate = none := by
  cases path <;> simp [joinPath]

/-- A query that asks for nothing shows all that a scope does, but for autofilters that
are enabled. -/
theorem of_combine_empty (unchanged : scope.combine {} = .ok {}) :
    scope.pathUsage = .none ∧ scope.rawQuery = none ∧ scope.skip = none ∧ scope.top = none := by
  rcases combine_eq_ok.mp unchanged with ⟨raw, path, reads, places, same⟩
  have samePredicate := congrArg CompiledQuery.predicate same
  have samePage := congrArg CompiledQuery.page same
  rcases joinPath_eq_none.mp samePredicate.symm with ⟨rfl, joined⟩
  rcases joinRaw_eq_none.mp joined with ⟨rfl, _⟩
  simp only [Option.or_none, Page.mk.injEq] at samePage
  refine ⟨?_, ?_, samePage.1.symm, samePage.2.symm⟩
  · rcases pathTerm?_eq_ok.mp places with ⟨unused, _⟩ | ⟨_, folder, _, _, placed⟩
    · exact unused
    · cases placed
  · exact Option.map_eq_none_iff.mp (rawTerm?_eq_ok.mp reads).2.symm

theorem autofilters_of_combine {query : CompiledQuery}
    (unchanged : scope.combine query = .ok query) :
    scope.autofilters.getD query.flags.autofilters = query.flags.autofilters := by
  rcases combine_eq_ok.mp unchanged with ⟨_, _, _, _, same⟩
  exact (congrArg (fun query => query.flags.autofilters) same).symm

theorem isEmpty_of_combine
    (unchanged : ∀ query : CompiledQuery, scope.combine query = .ok query) :
    scope.isEmpty = true := by
  rcases of_combine_empty (unchanged {}) with ⟨noUsage, noRaw, noSkip, noTop⟩
  have keepsMode (mode : AutofilterMode) : scope.autofilters.getD mode = mode :=
    autofilters_of_combine (unchanged { flags := { autofilters := mode } })
  refine isEmpty_iff.mpr ⟨noUsage, noRaw, noSkip, noTop, ?_⟩
  cases override : scope.autofilters with
  | none => rfl
  | some mode =>
      -- the override would have to be both of the modes
      have isDefault := keepsMode .default
      have isDisabled := keepsMode .disabled
      simp_all

/-! ### Reports -/

theorem compileRecorded_of_ok {context : Context} {query : Query} {compilation : Compilation}
    (compiles : query.outcome context scope = .ok compilation) (recorder : Recorder) :
    let recorded := (query.compileRecorded context scope recorder).2
    (∀ sink, recorder.inForce = some sink →
        recorded.receivedBy sink = recorder.receivedBy sink ++
          [.start, .finish compilation.termCount compilation.guarded !scope.isEmpty]) ∧
      (recorder.inForce = none →
        recorded.report.inScope = increase recorder.report.inScope (!scope.isEmpty).toNat) := by
  simp only [Query.compileRecorded, compiles, Recorder.conclude]
  constructor
  · intro sink inForce
    simp [Recorder.receivedBy_record, inForce]
  · intro noSink
    simp [Recorder.report_record, noSink, CompileReport.count]

/-- A scope is empty if and only if every query has a form in it, and that form is the query itself.
So the report of a compilation that succeeds, to a sink or to the counters, says that it was in a
scope unless the scope changes no query whatever. -/
theorem isEmpty_iff_combine_eq_self (scope : Scope) :
    (scope.isEmpty = true ↔ ∀ query : CompiledQuery, scope.combine query = .ok query) ∧
      ∀ (context : Context) (query : Query) (compilation : Compilation),
        query.outcome context scope = .ok compilation →
        ∃ inScope : Bool,
          (inScope = false ↔ ∀ query : CompiledQuery, scope.combine query = .ok query) ∧
            ∀ recorder : Recorder,
              let recorded := (query.compileRecorded context scope recorder).2
              (∀ sink, recorder.inForce = some sink →
                  recorded.receivedBy sink = recorder.receivedBy sink ++
                    [.start, .finish compilation.termCount compilation.guarded inScope]) ∧
                (recorder.inForce = none →
                  recorded.report.inScope =
                    increase recorder.report.inScope inScope.toNat) := by
  have emptiness :
      scope.isEmpty = true ↔ ∀ query : CompiledQuery, scope.combine query = .ok query :=
    ⟨combine_of_isEmpty, isEmpty_of_combine⟩
  refine ⟨emptiness, ?_⟩
  intro context query compilation compiles
  refine ⟨!scope.isEmpty, ?_, compileRecorded_of_ok compiles⟩
  rw [← emptiness, Bool.not_eq_false']

/-- A path without a usage leaves every query as it is, and to enable the autofilters, as they are
by default, is a change to queries that disable them. -/
theorem isEmpty_iff_combine_eq_self_enabled :
    let context : Context := ⟨.empty, .empty, {}, .epoch⟩
    let unused : Scope := { basePath := some "/root" }
    let enabling : Scope := { autofilters := some .default }
    (∀ query : CompiledQuery, unused.combine query = .ok query) ∧
      (Query.compileRecorded context unused {} { inForce := some 7 }).2.receivedBy 7 =
        [.start, .finish 1 true false] ∧
      (¬ ∀ query : CompiledQuery, enabling.combine query = .ok query) ∧
      (Query.compileRecorded context enabling {} {}).2.report.inScope = 1 := by
  intro context unused enabling
  have unusedLaws := isEmpty_iff_combine_eq_self unused
  have enablingLaws := isEmpty_iff_combine_eq_self enabling
  have changes : ¬ ∀ query : CompiledQuery, enabling.combine query = .ok query :=
    mt enablingLaws.1.mpr (by decide)
  have keeps : ∀ query : CompiledQuery, unused.combine query = .ok query := unusedLaws.1.mp rfl
  refine ⟨keeps, ?_, changes, ?_⟩
  · rcases unusedLaws.2 context {} _ rfl with ⟨inScope, flagged, reports⟩
    rw [(reports { inForce := some 7 }).1 7 rfl, flagged.mpr keeps]
    rfl
  · rcases enablingLaws.2 context {} _ rfl with ⟨inScope, flagged, reports⟩
    have isInScope : inScope = true := by simpa using mt flagged.mp changes
    rw [(reports {}).2 rfl, isInScope]
    rfl

end Scope

end ContentQuery
