import ContentQuery.Proofs.Query.InScope
import ContentQuery.Proofs.Scope.Literals

/-!
# Failures of compilations

A compilation fails with the query, whatever its scope, or with the scope, whatever its query, or it
panics for a date that has no representation in UTC. The main statement says which of these it is,
and what the text is where none of them is the case.
-/

namespace ContentQuery

namespace Query

variable {context : Context} {scope : Scope} {query : Query}

/-- The text of a query in a scope, with the presence guard for want of a predicate. A date without
a representation in UTC panics. -/
def print (guardField : String) (combined : CompiledQuery) :
    Except (Stop CompileError) CompiledText :=
  if combined.isPrintable then
    .ok ⟨{ combined with
        predicate := some (combined.predicate.getD (.presenceGuard guardField)) }.text,
      combined.flags.executionMode⟩
  else .error .panicked

/-- A compilation is the compilation without a scope, followed by what the scope does, and by the
printing. -/
theorem compile_eq_bind :
    query.compile context scope =
      (do
        let compiled ← query.compileQuery context
        let combined ← (scope.combine compiled).mapError .refused
        print context.options.guardField combined) := by
  simp only [compile, outcome, compileIn, compileQuery]
  cases query.lower context with
  | error stop => rfl
  | ok lowered =>
      change (((scope.combine lowered.query).mapError _ >>= _) >>= _) >>= _ =
        (scope.combine lowered.query).mapError _ >>= _
      cases scope.combine lowered.query with
      | error error => rfl
      | ok combined =>
          -- the presence guard has a number for a bound, which can always be printed
          have guardPrints :
              CompiledQuery.isPrintable
                { combined with predicate := some (.presenceGuard context.options.guardField) } =
                  true := rfl
          rcases combined with ⟨_ | predicate, sort, page, flags⟩
          · rfl
          · change (if _ then _ else _) >>= _ = if _ then _ else _
            split
            · rfl
            · rfl

theorem flags_of_compileQuery {compiled : CompiledQuery}
    (compiles : query.compileQuery context = .ok compiled) : compiled.flags = query.flags := by
  rcases bind_eq_ok.mp compiles with ⟨lowered, lowers, same⟩
  rcases lower_eq_ok.mp lowers with ⟨_, _, _, _, _, _, rfl⟩
  cases same
  rfl

theorem executionMode_of_combine {compiled combined : CompiledQuery}
    (combines : scope.combine compiled = .ok combined) :
    combined.flags.executionMode = compiled.flags.executionMode := by
  rcases Scope.combine_eq_ok.mp combines with ⟨_, _, _, _, rfl⟩
  rfl

/-- A query that does not compile by itself fails for the same reason in every scope. A query that
compiles by itself is refused in just those scopes that cannot be used, and then for the scope. In
every other scope its text is that of the query in the scope, with the presence guard for want of a
predicate, and its execution mode is the one the query asks for, unless it has a date without a
representation in UTC: then the compilation panics. -/
theorem compile_by_stages (context : Context) (scope : Scope) (query : Query) :
    (∀ stop, query.compileQuery context = .error stop →
        query.compile context scope = .error stop) ∧
      ∀ compiled, query.compileQuery context = .ok compiled →
        ((∃ error, query.compile context scope = refuse error) ↔ scope.IsUnusable) ∧
        (∀ error, query.compile context scope = refuse error →
          ∃ reason, error = .invalidScope reason) ∧
        (¬ scope.IsUnusable → ∃ combined, scope.combine compiled = .ok combined ∧
          query.compile context scope =
            if compiled.isPrintable then
              .ok
                ⟨{ combined with
                    predicate := some (combined.predicate.getD
                      (.presenceGuard context.options.guardField)) }.text,
                  query.flags.executionMode⟩
            else .error .panicked) := by
  constructor
  · intro stop fails
    rw [compile_eq_bind, fails]
    rfl
  · intro compiled compiles
    have stages : query.compile context scope =
        (scope.combine compiled).mapError .refused >>= print context.options.guardField := by
      rw [compile_eq_bind, compiles]
      rfl
    have usable := @Scope.exists_combine_iff scope compiled
    cases combines : scope.combine compiled with
    | ok combined =>
        have isUsable := usable.mp ⟨combined, combines⟩
        have printed : query.compile context scope =
            if compiled.isPrintable then
              .ok
                ⟨{ combined with
                    predicate := some (combined.predicate.getD
                      (.presenceGuard context.options.guardField)) }.text,
                  query.flags.executionMode⟩
            else .error .panicked := by
          rw [stages, combines, ← flags_of_compileQuery compiles,
            ← executionMode_of_combine combines, ← Scope.isPrintable_of_combine combines]
          rfl
        have notRefused (error : CompileError) : query.compile context scope ≠ refuse error := by
          rw [printed]
          split <;> simp
        refine ⟨iff_of_false ?_ isUsable, ?_, fun _ => ⟨combined, rfl, printed⟩⟩
        · rintro ⟨error, refused⟩
          exact notRefused error refused
        · intro error refused
          exact absurd refused (notRefused error)
    | error cause =>
        have unusable : scope.IsUnusable := by
          by_contra isUsable
          rcases usable.mpr isUsable with ⟨combined, combinesToo⟩
          cases combines.symm.trans combinesToo
        have refused : query.compile context scope = refuse cause := by
          rw [stages, combines]
          rfl
        have ofScope := scope.failsWithin_combine compiled cause combines
        refine ⟨iff_of_true ⟨cause, refused⟩ unusable, ?_, fun isUsable => absurd unusable isUsable⟩
        intro error refusedToo
        cases refused.symm.trans refusedToo
        cases cause with
        | invalidScope reason => exact ⟨reason, rfl⟩
        | _ => exact ofScope.elim

/-- A comparison with the date an hour after 9999-12-31 22:30 at an offset of -01:00. The year 10000
has begun then in UTC. -/
def lastEvening : Query :=
  { predicate := some (.binary .lt (.field "CreationDate")
      (.call .addHours (.constant (.dateTime ⟨.ofUnix 253402299000 0 (-3600), by decide⟩))
        [.constant (.int 1)])) }

/-- The query compiles by itself, but has no text in a scope that can be used. A scope that cannot
be used is refused before that is noticed. -/
theorem compile_by_stages_lastEvening :
    let context : Context := ⟨.empty, .empty, { unknownFields := .infer }, .epoch⟩
    (∃ compiled, lastEvening.compileQuery context = .ok compiled ∧ compiled.isPrintable = false) ∧
      lastEvening.compile context {} = .error .panicked ∧
      ∃ reason,
        lastEvening.compile context { rawQuery := some " " } = refuse (.invalidScope reason) := by
  intro context
  have compiles : ∃ compiled, lastEvening.compileQuery context = .ok compiled ∧
      compiled.isPrintable = false := ⟨_, rfl, by decide⟩
  rcases compiles with ⟨compiled, compiles, unprintable⟩
  rcases (compile_by_stages context {} lastEvening).2 compiled compiles with ⟨_, _, prints⟩
  rcases (compile_by_stages context { rawQuery := some " " } lastEvening).2 compiled compiles with
    ⟨refused, ofScope, _⟩
  refine ⟨⟨compiled, compiles, unprintable⟩, ?_, ?_⟩
  · rcases prints (by simp [Scope.IsUnusable]) with ⟨combined, _, panics⟩
    rw [panics, unprintable]
    rfl
  · rcases refused.mpr (.inl ⟨" ", rfl, by decide⟩) with ⟨error, fails⟩
    rcases ofScope error fails with ⟨reason, rfl⟩
    exact ⟨reason, fails⟩

-- the query fails first, and within it the predicate before the sort keys
example :
    let context : Context := ⟨.empty, .empty, {}, .epoch⟩
    let scope : Scope := { rawQuery := some " ", pathUsage := .inFolderAnd }
    compile context scope { predicate := some (.field "A"), sort := [⟨"B", .ascending⟩] } =
        refuse (.unknownField "A") ∧
      compile context scope {} = refuse .blankRawQuery := by
  decide

end Query

end ContentQuery
