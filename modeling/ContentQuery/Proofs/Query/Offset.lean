import ContentQuery.Compiler
import ContentQuery.Proofs.Predicate.Offset
import ContentQuery.Proofs.Query.Failure
import ContentQuery.Proofs.Query.Literals

/-!
# Offsets of timestamps in queries

The text of a query depends on the timestamps in it and on the time of compilation only as instants.
The offsets that they are given in do not matter, as long as no time shift meets a date that is in
the range of dates in one offset and not in the other.
-/

namespace ContentQuery

open Literal (inUtc)

namespace Query

variable {context : Context} {query : Query}

/-- The query with all of its timestamps in UTC. -/
def inUtc (query : Query) : Query :=
  { query with predicate := query.predicate.map Expr.inUtc }

/-- The dates that the time shifts in a query start from and lead to when it is compiled. -/
def shiftedDates (context : Context) (query : Query) : List Moment :=
  query.predicate.elim [] (Predicate.shiftedDates context)

/-- The dates of the time shifts in a query lie in the range of dates in their own offset just if
they do in UTC. -/
def RangeAgreesInUtc (context : Context) (query : Query) : Prop :=
  ∀ date ∈ query.shiftedDates context, date.RangeAgreesInUtc

instance : Decidable (query.RangeAgreesInUtc context) :=
  inferInstanceAs (Decidable (∀ date ∈ _, _))

theorem toPredicate_inUtc (inRange : query.RangeAgreesInUtc context) :
    query.inUtc.toPredicate context = Predicate.inUtc <$> query.toPredicate context := by
  rcases query with ⟨_ | expr, sort, page, flags⟩
  · rfl
  · exact Predicate.ofExpr_inUtc expr inRange

theorem compileQuery_inUtc (inRange : query.RangeAgreesInUtc context) :
    query.inUtc.compileQuery context =
      CompiledQuery.mapLiterals Literal.inUtc <$> query.compileQuery context := by
  apply compileQuery_mapLiterals rfl rfl (toPredicate_inUtc inRange) <;> rfl

theorem print_mapLiterals {change : Literal → Literal}
    (keepsText : ∀ literal, (change literal).render = literal.render)
    (keepsPrintable : ∀ literal, (change literal).isPrintable = literal.isPrintable)
    (guardField : String) (combined : CompiledQuery) :
    print guardField (combined.mapLiterals change) = print guardField combined := by
  rw [print, print, CompiledQuery.isPrintable_mapLiterals keepsPrintable]
  rcases combined with ⟨_ | predicate, sort, page, flags⟩
  · rfl
  · have sameText :=
      CompiledQuery.text_mapLiterals keepsText ⟨some predicate, sort, page, flags⟩
    congr 1
    exact congrArg (Except.ok <| CompiledText.mk · flags.executionMode) sameText

/-- With all of its timestamps in UTC a query has the same text, or it has none for the
same reason. -/
theorem compile_inUtc (inRange : query.RangeAgreesInUtc context) (scope : Scope) :
    query.inUtc.compile context scope = query.compile context scope := by
  rw [compile_eq_bind, compile_eq_bind, compileQuery_inUtc inRange]
  cases query.compileQuery context with
  | error stop => rfl
  | ok compiled =>
      change (scope.combine (compiled.mapLiterals Literal.inUtc)).mapError _ >>= _ =
        (scope.combine compiled).mapError _ >>= _
      rw [Scope.combine_mapLiterals]
      cases scope.combine compiled with
      | error error => rfl
      | ok combined =>
          exact print_mapLiterals Literal.render_inUtc Literal.isPrintable_inUtc _ combined

end Query

namespace Compiler

/-- Under fixed clocks that show the same instant, two queries that are the same with all timestamps
in UTC compile to the same text or have none for the same reason. The dates of their time shifts
have to lie in the range of dates in their own offset just if they do in UTC. -/
theorem compile_eq_of_inUtc_eq (compiler : Compiler) (present : Timestamp) (scope : Scope)
    {time otherTime : Timestamp} (sameTime : time.instant = otherTime.instant)
    {query other : Query} (sameQuery : query.inUtc = other.inUtc)
    (inRange : query.RangeAgreesInUtc ((compiler.withClock (.fixed time)).context present))
    (otherInRange :
      other.RangeAgreesInUtc ((compiler.withClock (.fixed otherTime)).context present)) :
    query.compile ((compiler.withClock (.fixed time)).context present) scope =
      other.compile ((compiler.withClock (.fixed otherTime)).context present) scope := by
  have agree : other.inUtc.AgreeFor ((compiler.withClock (.fixed time)).context present)
      ((compiler.withClock (.fixed otherTime)).context present) := by
    refine ⟨rfl, fun _ _ => rfl, fun _ _ => rfl, fun _ => ?_⟩
    have sameDate : time.toUtc? = otherTime.toUtc? := Timestamp.toUtc?_eq_of_instant_eq sameTime
    simp only [context, withClock, Clock.time, readClock, sameDate]
  calc query.compile ((compiler.withClock (.fixed time)).context present) scope
      = query.inUtc.compile ((compiler.withClock (.fixed time)).context present) scope :=
        (Query.compile_inUtc inRange scope).symm
    _ = other.inUtc.compile ((compiler.withClock (.fixed otherTime)).context present) scope := by
        rw [sameQuery, agree.compile_eq]
    _ = other.compile ((compiler.withClock (.fixed otherTime)).context present) scope :=
        Query.compile_inUtc otherInRange scope

/-- A comparison of timestamps decides between two branches, and the chosen one has a shift by a
day. The query is given in UTC and in another offset, and so is the time. -/
theorem compile_eq_of_inUtc_eq_choice :
    let compiler : Compiler := { catalog := .empty, options := { unknownFields := .infer } }
    let context (time : Timestamp) := (compiler.withClock (.fixed time)).context .epoch
    let query (date : Timestamp) : Query :=
      let given : Expr := .constant (.dateTime date)
      { predicate := some (.conditional (.binary .lt given .today)
          (.binary .ge (.field "CreationDate") (given.shift .day (.constant (.int 1))))
          (.field "Archived")) }
    let time : Timestamp := ⟨.ofUnix 1709250000 0 0, by decide⟩
    let otherTime : Timestamp := ⟨.ofUnix 1709250000 0 (-18000), by decide⟩
    let date : Timestamp := ⟨.ofUnix 1709161200 0 0, by decide⟩
    let otherDate : Timestamp := ⟨.ofUnix 1709161200 0 7200, by decide⟩
    let text := "CreationDate:>='2024-02-29 23:00:00.0000'"
    (query date).inUtc = (query otherDate).inUtc ∧
      (query date).RangeAgreesInUtc (context time) ∧
      (query otherDate).RangeAgreesInUtc (context otherTime) ∧
      (query date).compile (context time) {} = .ok ⟨text, .default⟩ ∧
      (query otherDate).compile (context otherTime) {} = .ok ⟨text, .default⟩ := by
  intro compiler context query time otherTime date otherDate text
  have inRange : (query date).RangeAgreesInUtc (context time) := by decide
  have otherInRange : (query otherDate).RangeAgreesInUtc (context otherTime) := by decide
  have compiles : (query date).compile (context time) {} = .ok ⟨text, .default⟩ := by decide
  have sameTime : time.instant = otherTime.instant := rfl
  have sameQuery : (query date).inUtc = (query otherDate).inUtc := rfl
  have same := compile_eq_of_inUtc_eq compiler .epoch {} sameTime sameQuery inRange otherInRange
  exact ⟨sameQuery, inRange, otherInRange, compiles, same.symm.trans compiles⟩

-- 9999-12-31 21:00 at -02:00 is 23:00 in UTC; an hour later the year 10000 has begun there and
-- only there
example :
    let context : Context := ⟨.empty, .empty, { unknownFields := .infer }, .epoch⟩
    let evening : Expr := .constant (.dateTime ⟨.ofUnix 253402297200 0 (-7200), by decide⟩)
    let query : Query :=
      { predicate := some (.binary .lt (.field "CreationDate")
          (evening.shift .hour (.constant (.int 1)))) }
    ¬ query.RangeAgreesInUtc context ∧ query.compile context {} = .error .panicked ∧
      query.inUtc.compile context {} = refuse .overflow := by
  decide

end Compiler

end ContentQuery
