import ContentQuery.Proofs.Query.Failure
import ContentQuery.Proofs.Session.Steps

/-!
# History of a session

The history of a run lists what bears on the counters: its compilations outside of all sinks, each
with the context that it was compiled in, and its resets. A sink takes events, and it leaves the
counters to be reset.

The main statement is that the counters of a session are the recount of the compilations in its
history since the last reset. A compilation that panics counts as started and as nothing else.
-/

namespace ContentQuery

/-- Something that bears on the counters of a session. -/
inductive Mark where
  | compiled (request : Request)
  | reset

namespace Mark

def isReset : Mark → Bool
  | compiled _ => false
  | reset => true

/-- The compilations after the last reset. -/
def sinceReset (marks : List Mark) : List Request :=
  marks.foldl (fun requests mark =>
    match mark with
    | compiled request => requests ++ [request]
    | reset => []) []

end Mark

def CompileReport.note (report : CompileReport) : Mark → CompileReport
  | .compiled request => request.events.foldl count report
  | .reset => {}

/-- The counters are those of the compilations since the last reset. -/
theorem CompileReport.foldl_note (marks : List Mark) :
    marks.foldl note {} = ((Mark.sinceReset marks).flatMap Request.events).foldl count {} := by
  induction marks using List.reverseRecOn with
  | nil => rfl
  | append_singleton marks mark ih =>
      rw [Mark.sinceReset, List.foldl_append, List.foldl_append, ih, ← Mark.sinceReset]
      cases mark with
      | compiled request => simp [note]
      | reset => rfl

/-- What the step does to the counters. Under a sink it can do nothing but reset them. -/
def Step.mark? (step : Step) : Option Mark :=
  match step.operation with
  | .compile query scope present =>
    if step.sink = none then some (.compiled ⟨step.compiler.context present, scope, query⟩)
    else none
  | .reset => some .reset
  | _ => none

/-- The history of actions that are under no sink but their own. -/
def Action.history (compiler : Compiler) (actions : List Action) : List Mark :=
  (traceAll compiler none actions).steps.filterMap Step.mark?

namespace Session

variable {session : Session} {step : Step} {steps : List Step}

theorem report_follow (sameCompiler : step.compiler = session.compiler) :
    (session.follow step).recorder.report =
      step.mark?.toList.foldl .note session.recorder.report := by
  rcases step with ⟨compiler, sink, operation⟩
  cases sameCompiler
  cases operation with
  | compile query scope present =>
      have recorded := Request.report_compileRecorded
        ⟨session.compiler.context present, scope, query⟩ (session.under sink).recorder
      refine recorded.trans ?_
      cases sink <;> rfl
  | setUp options fields clock =>
      have kept := (session.under sink).recorder_perform_setUp options fields clock
      have sameReport := congrArg Recorder.report kept
      exact sameReport
  | _ => rfl

theorem report_followAll (threaded : Threaded session.compiler steps) :
    (session.followAll steps).recorder.report =
      (steps.filterMap Step.mark?).foldl .note session.recorder.report := by
  induction steps generalizing session with
  | nil => rfl
  | cons step steps ih =>
      rcases threaded_cons.mp threaded with ⟨sameCompiler, threaded⟩
      rw [followAll, List.foldl_cons, ← followAll, ih threaded, report_follow sameCompiler]
      cases marks : step.mark? <;> simp [marks]

theorem report_run (session : Session) (actions : List Action) :
    (session.run actions).2.recorder.report =
      ((Action.traceAll session.compiler session.recorder.inForce actions).steps.filterMap
        Step.mark?).foldl .note session.recorder.report := by
  rw [(follows_run.2 actions session).last]
  exact report_followAll (Action.threaded_trace.2 actions _ _)

/-- The counters of a session that starts from nothing are the recount of its history since the last
reset, each up to its limit. -/
theorem recounts_run (compiler : Compiler) (actions : List Action) :
    (run { compiler } actions).2.recorder.report.Recounts
      (Mark.sinceReset (Action.history compiler actions)) := by
  rw [report_run, ← Action.history, CompileReport.foldl_note]
  exact CompileReport.recounts_foldl _

/-- As long as no counter has reached its limit, the counters of a session are an exact recount of
the compilations outside of all sinks since the last reset, whatever the actions in between. Those
that panic are counted as started alone. -/
theorem report_eq_recount (compiler : Compiler) (actions : List Action)
    (room : (run { compiler } actions).2.recorder.report.HasRoom) :
    let report := (run { compiler } actions).2.recorder.report
    let requests := Mark.sinceReset (Action.history compiler actions)
    report.started = requests.length ∧
      report.succeeded = requests.countP Request.succeeds ∧
      report.failed = requests.countP Request.fails ∧
      report.started = report.succeeded + report.failed + requests.countP Request.panics ∧
      report.termsEmitted = (requests.map Request.termCount).sum ∧
      report.guardsAdded = requests.countP Request.addsGuard ∧
      report.inScope = requests.countP Request.isRestricted ∧
      (∀ label, report.failuresOf label =
        requests.countP fun request => request.failure? = some label) ∧
      (report.failures.toList.map Prod.snd).sum = report.failed := by
  intro report requests
  have recounts : report.Recounts requests := recounts_run compiler actions
  exact ⟨CompileReport.eq_of_eq_min recounts.started room.started,
    CompileReport.eq_of_eq_min recounts.succeeded room.succeeded,
    CompileReport.eq_of_eq_min recounts.failed room.failed,
    recounts.started_eq_add room,
    CompileReport.eq_of_eq_min recounts.termsEmitted room.termsEmitted,
    CompileReport.eq_of_eq_min recounts.guardsAdded room.guardsAdded,
    CompileReport.eq_of_eq_min recounts.inScope room.inScope,
    fun label => CompileReport.eq_of_eq_min (recounts.failures label) (room.failures label),
    recounts.sum_failures room⟩

/-- A guarded query in a scope, a query that is never true and one that panics are counted. The
query before the reset and the one under the sink are not. -/
theorem report_eq_recount_reset :
    let compiler : Compiler :=
      { catalog := .empty, options := { unknownFields := .infer }, clock := .fixed .epoch }
    let negated : Query :=
      { predicate := some (.binary .ne (.field "A") (.constant (.int 1))) }
    let never : Query := { predicate := some (.constant (.bool false)) }
    let compiling (query : Query) (scope : Scope) : Action :=
      .perform (.compile query scope .epoch)
    let actions : List Action :=
      [compiling {} {}, .perform .reset, compiling negated (.inFolderOr "/root"),
        .attempt [.withSink 0 [compiling {} {}, .throw]], .attempt [compiling .lastEvening {}],
        compiling never {}]
    let report := (run { compiler } actions).2.recorder.report
    report.HasRoom ∧ report.started = 3 ∧ report.succeeded = 1 ∧ report.failed = 1 ∧
      report.termsEmitted = 3 ∧ report.guardsAdded = 1 ∧ report.inScope = 1 ∧
      report.failuresOf "constant_predicate" = 1 ∧ report.failuresOf "invalid_scope" = 0 ∧
      (report.failures.toList.map Prod.snd).sum = 1 := by
  intro compiler negated never compiling actions report
  let context : Context := ⟨.empty, .empty, { unknownFields := .infer }, .epoch⟩
  let requests : List Request :=
    [⟨context, .inFolderOr "/root", negated⟩, ⟨context, {}, .lastEvening⟩, ⟨context, {}, never⟩]
  have recent : Mark.sinceReset (Action.history compiler actions) = requests := by
    simp only [actions, compiling, compiler, negated, never, requests, context]
    rfl
  have recounts : report.Recounts requests := by
    rw [← recent]
    exact recounts_run compiler actions
  have room : report.HasRoom := recounts.hasRoom (by decide) (by decide)
  have recounted := report_eq_recount compiler actions room
  rw [recent] at recounted
  rcases recounted with
    ⟨started, succeeded, failed, _, termsEmitted, guardsAdded, inScope, failures, sum⟩
  refine ⟨room, started, ?_, ?_, ?_, ?_, ?_, ?_, ?_, ?_⟩
  · exact succeeded.trans (by decide)
  · exact failed.trans (by decide)
  · exact termsEmitted.trans (by decide)
  · exact guardsAdded.trans (by decide)
  · exact inScope.trans (by decide)
  · exact (failures _).trans (by decide)
  · exact (failures _).trans (by decide)
  · exact (sum.trans failed).trans (by decide)

/-- A compilation that panics, and no other action, leaves a report in which more compilations have
been started than have succeeded or failed. -/
theorem started_ne_add_lastEvening :
    let compiler : Compiler := { catalog := .empty, options := { unknownFields := .infer } }
    let report :=
      (run { compiler } [.perform (.compile .lastEvening {} .epoch)]).2.recorder.report
    report.HasRoom ∧ report.started = 1 ∧ report.succeeded = 0 ∧ report.failed = 0 ∧
      report.started ≠ report.succeeded + report.failed := by
  intro compiler report
  have counted : report = { started := 1 } := rfl
  have noFailures (label : String) : report.failuresOf label = 0 := by
    rw [counted]
    simp [CompileReport.failuresOf]
  refine ⟨?_, by decide, by decide, by decide, by decide⟩
  refine ⟨by decide, by decide, by decide, by decide, by decide, by decide, ?_⟩
  intro label
  rw [noFailures]
  decide

end Session

end ContentQuery
