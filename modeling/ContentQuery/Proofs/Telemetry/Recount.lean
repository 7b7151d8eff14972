import ContentQuery.Proofs.Clause.Terms
import ContentQuery.Proofs.Query.InScope
import ContentQuery.Proofs.Scope.Literals
import ContentQuery.Telemetry.Recorder
import Mathlib.Algebra.BigOperators.Group.Finset.Basic

/-!
# Recounts of compilations

The counters of a report are compared with a recount: with what there is to say about each of the
compilations by itself, counted or added up over all of them.

The main statements are that the counters are the recount as long as none of them has reached its
limit, and that a compilation is reported as guarded exactly if its predicate has more presence
guards than its filter.
-/

namespace ContentQuery

/-- A compilation as it was asked for. -/
structure Request where
  context : Context
  scope : Scope
  query : Query

/-- The number of terms of a predicate that pass a test. -/
def Predicate.count (counted : Term → Bool) : Predicate → Nat
  | constant _ => 0
  | clause inner => inner.count counted

def CompiledQuery.count (counted : Term → Bool) (query : CompiledQuery) : Nat :=
  query.predicate.elim 0 (Clause.count counted)

namespace Request

def outcome (request : Request) : Except (Stop CompileError) Compilation :=
  request.query.outcome request.context request.scope

def succeeds (request : Request) : Bool :=
  request.outcome.isOk

/-- The label of the error that the compilation fails with. -/
def failure? (request : Request) : Option String :=
  match request.outcome with
  | .error (.refused error) => some error.label
  | _ => none

def fails (request : Request) : Bool :=
  request.failure?.isSome

def panics (request : Request) : Bool :=
  match request.outcome with
  | .error .panicked => true
  | _ => false

/-- The number of terms of the compiled predicate, if there is one. -/
def termCount (request : Request) : Nat :=
  match request.outcome with
  | .ok compilation => compilation.termCount
  | .error _ => 0

/-- The compiled predicate has more presence guards than the filter gave it. -/
def addsGuard (request : Request) : Bool :=
  let isGuard := Term.isPresenceGuard request.context.options.guardField
  match request.query.toPredicate request.context, request.outcome with
  | .ok predicate, .ok compilation => predicate.count isGuard < compilation.query.count isGuard
  | _, _ => false

/-- The compilation succeeds in a scope that changes something. -/
def isRestricted (request : Request) : Bool :=
  request.succeeds && !request.scope.isEmpty

/-- The events that report the compilation. There is no event for a panic. -/
def events (request : Request) : List MetricsEvent :=
  match request.outcome with
  | .ok compilation =>
    [.start, .finish compilation.termCount compilation.guarded !request.scope.isEmpty]
  | .error (.refused error) => [.start, .failed error.label]
  | .error .panicked => [.start]

end Request

/-! ### Presence guards of a compilation -/

section Guards

open Clause

variable {context : Context} {scope : Scope} {query : Query} {counted : Term → Bool}

theorem Query.count_of_lower (counts : CountsGuards context.options.guardField counted)
    {predicate : Predicate} {lowered : Compilation}
    (given : query.toPredicate context = .ok predicate)
    (lowers : query.lower context = .ok lowered) :
    predicate.count counted ≤ lowered.query.count counted ∧
      (lowered.guarded = true ↔ predicate.count counted < lowered.query.count counted) := by
  rcases Query.lower_eq_ok.mp lowers with ⟨_, normalized, sort, givenToo, normal, _, rfl⟩
  cases given.symm.trans givenToo
  cases predicate with
  | constant value =>
      cases value with
      | true =>
          cases normal
          simp [CompiledQuery.count, Predicate.count]
      | false => cases normal
  | clause inner =>
      cases normal
      rw [Predicate.count, CompiledQuery.count, Option.elim_map]
      exact count_normalize counts inner

theorem CompiledQuery.count_eq_countP (query : CompiledQuery) :
    query.count counted = (query.predicate.elim [] terms).countP counted := by
  rw [CompiledQuery.count]
  cases query.predicate <;> rfl

/-- A scope adds no presence guard. -/
theorem Scope.count_of_combine {compiled combined : CompiledQuery} (guardField : String)
    (combines : scope.combine compiled = .ok combined) :
    combined.count (Term.isPresenceGuard guardField) =
      compiled.count (Term.isPresenceGuard guardField) := by
  rcases Scope.combine_eq_ok.mp combines with ⟨raw, path, reads, places, rfl⟩
  have rawCounts : raw.toList.countP (Term.isPresenceGuard guardField) = 0 := by
    rw [(Scope.rawTerm?_eq_ok.mp reads).2]
    cases scope.rawQuery <;> rfl
  have pathCounts : path.toList.countP (Term.isPresenceGuard guardField) = 0 := by
    rcases Scope.pathTerm?_eq_ok.mp places with ⟨_, rfl⟩ | ⟨_, folder, _, _, rfl⟩ <;> rfl
  simp only [CompiledQuery.count_eq_countP, Scope.terms_joinPath, Scope.terms_joinRaw,
    List.countP_append, rawCounts, pathCounts, Nat.add_zero]

/-- A compilation is marked as guarded exactly if its predicate has more presence guards than its
filter. -/
theorem Query.guarded_iff_of_compileIn {predicate : Predicate} {compilation : Compilation}
    (given : query.toPredicate context = .ok predicate)
    (compiles : query.compileIn context scope = .ok compilation) :
    compilation.guarded = true ↔
      predicate.count (Term.isPresenceGuard context.options.guardField) <
        compilation.query.count (Term.isPresenceGuard context.options.guardField) := by
  rcases Query.compileIn_eq_ok.mp compiles with ⟨lowered, combined, lowers, combines, rfl⟩
  have counts := countsGuards_isPresenceGuard context.options.guardField
  have lowering := Query.count_of_lower counts given lowers
  rw [← Scope.count_of_combine context.options.guardField combines] at lowering
  cases restricted : combined.predicate with
  | some clause => simpa [CompiledQuery.count, restricted] using lowering.2
  | none =>
      -- there was nothing to count, and the fallback is one guard
      have nothing : predicate.count (Term.isPresenceGuard context.options.guardField) = 0 := by
        simpa [CompiledQuery.count, restricted] using lowering.1
      simp [CompiledQuery.count, nothing, count_presenceGuard counts]

end Guards

/-! ### Counters -/

theorem increase_min (total amount : Nat) :
    increase (min total counterLimit) amount = min (total + amount) counterLimit := by
  simp only [increase]
  omega

theorem increase_min_toNat (total : Nat) (condition : Bool) :
    increase (min total counterLimit) condition.toNat =
      min (total + if condition then 1 else 0) counterLimit := by
  rw [increase_min]
  cases condition <;> rfl

namespace Request

variable {request : Request} {compilation : Compilation} {stop : Stop CompileError}

theorem addsGuard_of_ok (ends : request.outcome = .ok compilation) :
    request.addsGuard = compilation.guarded := by
  have compiles := (Query.outcome_eq_ok.mp ends).1
  rcases Query.compileIn_eq_ok.mp compiles with ⟨lowered, _, lowers, _⟩
  rcases Query.lower_eq_ok.mp lowers with ⟨predicate, _, _, given, _⟩
  have guarded := Query.guarded_iff_of_compileIn given compiles
  simp only [addsGuard, given, ends]
  rw [Bool.eq_iff_iff, decide_eq_true_iff, guarded]

theorem addsGuard_of_error (ends : request.outcome = .error stop) :
    request.addsGuard = false := by
  simp only [addsGuard, ends]
  split <;> simp_all

theorem report_compileRecorded (request : Request) (recorder : Recorder) :
    (request.query.compileRecorded request.context request.scope recorder).2.report =
      if recorder.inForce = none then request.events.foldl .count recorder.report
      else recorder.report := by
  rw [Query.compileRecorded, events, outcome]
  rcases request.query.outcome request.context request.scope with (error | _) | compilation <;>
    by_cases noSink : recorder.inForce = none <;>
      simp [Recorder.conclude, Recorder.report_record, noSink]

theorem receivedBy_compileRecorded (request : Request) (recorder : Recorder) (sink : Nat) :
    (request.query.compileRecorded request.context request.scope recorder).2.receivedBy sink =
      if recorder.inForce = some sink then recorder.receivedBy sink ++ request.events
      else recorder.receivedBy sink := by
  rw [Query.compileRecorded, events, outcome]
  rcases request.query.outcome request.context request.scope with (error | _) | compilation <;>
    by_cases inForce : recorder.inForce = some sink <;>
      simp [Recorder.conclude, Recorder.receivedBy_record, inForce]

/-- Every compilation succeeds, fails or panics. -/
theorem length_eq_add (requests : List Request) :
    requests.length =
      requests.countP succeeds + requests.countP fails + requests.countP panics := by
  induction requests with
  | nil => rfl
  | cons request requests ih =>
      have one : (if request.succeeds then 1 else 0) + (if request.fails then 1 else 0) +
          (if request.panics then 1 else 0) = 1 := by
        rw [succeeds, fails, failure?, panics]
        rcases request.outcome with (error | _) | compilation <;> rfl
      simp only [List.length_cons, List.countP_cons]
      omega

end Request

namespace CompileReport

/-- Each counter is the recount of the compilations, up to its limit. -/
structure Recounts (report : CompileReport) (requests : List Request) : Prop where
  started : report.started = min requests.length counterLimit
  succeeded : report.succeeded = min (requests.countP Request.succeeds) counterLimit
  failed : report.failed = min (requests.countP Request.fails) counterLimit
  termsEmitted : report.termsEmitted = min (requests.map Request.termCount).sum counterLimit
  guardsAdded : report.guardsAdded = min (requests.countP Request.addsGuard) counterLimit
  inScope : report.inScope = min (requests.countP Request.isRestricted) counterLimit
  failures : ∀ label, report.failuresOf label =
    min (requests.countP fun request => request.failure? = some label) counterLimit

variable {report : CompileReport} {requests : List Request}

theorem recounts_nil : Recounts {} [] := by
  constructor <;> simp [failuresOf]

theorem failuresOf_count_failed (label other : String) :
    (report.count (.failed label)).failuresOf other =
      if label = other then increase (report.failuresOf label) 1 else report.failuresOf other := by
  simp only [count, failuresOf, Std.ExtTreeMap.getD_insert, Std.compare_eq_iff_eq]

/-- The events of one more compilation change the counters as the recount changes. -/
theorem Recounts.append (recounts : report.Recounts requests) (request : Request) :
    (request.events.foldl count report).Recounts (requests ++ [request]) := by
  rcases recounts with ⟨started, succeeded, failed, termsEmitted, guardsAdded, inScope, failures⟩
  cases ends : request.outcome with
  | ok compilation =>
      have succeeds : request.succeeds = true := by rw [Request.succeeds, ends]; rfl
      have noFailure : request.failure? = none := by simp [Request.failure?, ends]
      have terms : request.termCount = compilation.termCount := by simp [Request.termCount, ends]
      have guard := Request.addsGuard_of_ok ends
      have restricted : request.isRestricted = !request.scope.isEmpty := by
        rw [Request.isRestricted, succeeds, Bool.true_and]
      have finish : request.events =
          [.start, .finish compilation.termCount compilation.guarded !request.scope.isEmpty] := by
        simp [Request.events, ends]
      constructor <;> simp only [finish, List.foldl_cons, List.foldl_nil]
      · simp [count, started, increase_min]
      · simp [count, succeeded, increase_min, succeeds]
      · simp [count, failed, Request.fails, noFailure]
      · simp [count, termsEmitted, increase_min, terms]
      · simp [count, guardsAdded, increase_min_toNat, guard, List.countP_append,
          List.countP_singleton]
      · simp [count, inScope, increase_min_toNat, restricted, List.countP_append,
          List.countP_singleton]
      · intro label
        simpa [count, failuresOf, noFailure] using failures label
  | error stop =>
      have noSuccess : request.succeeds = false := by rw [Request.succeeds, ends]; rfl
      have noTerms : request.termCount = 0 := by simp [Request.termCount, ends]
      have noGuard := Request.addsGuard_of_error ends
      have notRestricted : request.isRestricted = false := by
        rw [Request.isRestricted, noSuccess, Bool.false_and]
      rcases stop with error | _
      · have failure : request.failure? = some error.label := by simp [Request.failure?, ends]
        have finish : request.events = [.start, .failed error.label] := by
          simp [Request.events, ends]
        constructor <;> simp only [finish, List.foldl_cons, List.foldl_nil]
        · simp [count, started, increase_min]
        · simp [count, succeeded, noSuccess]
        · simp [count, failed, increase_min, Request.fails, failure]
        · simp [count, termsEmitted, noTerms]
        · simp [count, guardsAdded, noGuard]
        · simp [count, inScope, notRestricted]
        · intro label
          have before (label : String) : (report.count .start).failuresOf label =
              min (requests.countP fun request => request.failure? = some label) counterLimit :=
            failures label
          rw [failuresOf_count_failed, before, before, List.countP_append, List.countP_singleton,
            failure]
          by_cases same : error.label = label
          · simp [same, increase_min]
          · simp [same]
      · have noFailure : request.failure? = none := by simp [Request.failure?, ends]
        have finish : request.events = [.start] := by simp [Request.events, ends]
        constructor <;> simp only [finish, List.foldl_cons, List.foldl_nil]
        · simp [count, started, increase_min]
        · simp [count, succeeded, noSuccess]
        · simp [count, failed, Request.fails, noFailure]
        · simp [count, termsEmitted, noTerms]
        · simp [count, guardsAdded, noGuard]
        · simp [count, inScope, notRestricted]
        · intro label
          simpa [count, failuresOf, noFailure] using failures label

/-- The events of compilations give their recount. -/
theorem recounts_foldl (requests : List Request) :
    ((requests.flatMap Request.events).foldl count {}).Recounts requests := by
  induction requests using List.reverseRecOn with
  | nil => exact recounts_nil
  | append_singleton requests request ih =>
      rw [List.flatMap_append, List.foldl_append, List.flatMap_singleton]
      exact ih.append request

/-- No counter has reached its limit. -/
structure HasRoom (report : CompileReport) : Prop where
  started : report.started < counterLimit
  succeeded : report.succeeded < counterLimit
  failed : report.failed < counterLimit
  termsEmitted : report.termsEmitted < counterLimit
  guardsAdded : report.guardsAdded < counterLimit
  inScope : report.inScope < counterLimit
  failures : ∀ label, report.failuresOf label < counterLimit

theorem Recounts.hasRoom (recounts : report.Recounts requests)
    (few : requests.length < counterLimit)
    (small : (requests.map Request.termCount).sum < counterLimit) : report.HasRoom := by
  have below {counter : Nat} {test : Request → Bool}
      (recounted : counter = min (requests.countP test) counterLimit) : counter < counterLimit := by
    have bounded : requests.countP test ≤ requests.length := List.countP_le_length
    omega
  constructor
  · have recounted := recounts.started
    omega
  · exact below recounts.succeeded
  · exact below recounts.failed
  · have recounted := recounts.termsEmitted
    omega
  · exact below recounts.guardsAdded
  · exact below recounts.inScope
  · exact fun label => below (recounts.failures label)

theorem eq_of_eq_min {counter total : Nat} (recounted : counter = min total counterLimit)
    (room : counter < counterLimit) : counter = total := by
  omega

/-- Failures that are counted by their labels add up to the number of labels. -/
theorem sum_failures {labels : List String}
    (counted : ∀ label, report.failuresOf label = labels.count label) :
    (report.failures.toList.map Prod.snd).sum = labels.length := by
  have values : report.failures.toList.map Prod.snd =
      report.failures.keys.map fun label => labels.count label := by
    rw [← Std.ExtTreeMap.map_fst_toList_eq_keys, List.map_map]
    apply List.map_congr_left
    rintro ⟨label, value⟩ entryMem
    rw [Std.ExtTreeMap.mem_toList_iff_getElem?_eq_some] at entryMem
    have count := counted label
    rw [failuresOf, Std.ExtTreeMap.getD_eq_getD_getElem?, entryMem] at count
    exact count
  have present : ∀ label ∈ labels, label ∈ report.failures.keys := by
    intro label labelMem
    by_contra missing
    rw [Std.ExtTreeMap.mem_keys] at missing
    have none := counted label
    rw [failuresOf, Std.ExtTreeMap.getD_eq_fallback missing] at none
    exact absurd none.symm (List.count_pos_iff.mpr labelMem).ne'
  calc (report.failures.toList.map Prod.snd).sum
      = ∑ label ∈ report.failures.keys.toFinset, (labels : Multiset String).count label := by
        rw [values, List.sum_toFinset _ Std.ExtTreeMap.nodup_keys]
        simp only [Multiset.coe_count]
    _ = labels.length := Multiset.sum_count_eq_card (by simpa using present)

theorem Recounts.started_eq_add (recounts : report.Recounts requests) (room : report.HasRoom) :
    report.started = report.succeeded + report.failed + requests.countP Request.panics := by
  rw [eq_of_eq_min recounts.started room.started, eq_of_eq_min recounts.succeeded room.succeeded,
    eq_of_eq_min recounts.failed room.failed]
  exact Request.length_eq_add requests

theorem Recounts.sum_failures (recounts : report.Recounts requests) (room : report.HasRoom) :
    (report.failures.toList.map Prod.snd).sum = report.failed := by
  have counted (label : String) :
      report.failuresOf label = (requests.filterMap Request.failure?).count label := by
    rw [eq_of_eq_min (recounts.failures label) (room.failures label), List.count,
      List.countP_filterMap]
    congr 1
    funext request
    cases request.failure? <;> simp [beq_eq_decide]
  rw [CompileReport.sum_failures counted, eq_of_eq_min recounts.failed room.failed]
  exact List.length_filterMap_eq_countP

end CompileReport

end ContentQuery
