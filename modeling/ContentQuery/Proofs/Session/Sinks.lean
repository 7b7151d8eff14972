import ContentQuery.Proofs.Session.History

/-!
# Sinks of a session

Sinks are known by identities and keep what they have received, so it can be asked of each of them
what it has received over a whole run.

The main statement is that sinks nest. Each sink receives the events of the compilations directly
under it and no others, the counters are those of the compilations outside of all sinks and of all
resets, and after a sink, whether it was left early or not, the one around it is in force.
-/

namespace ContentQuery

def Step.isReset (step : Step) : Bool :=
  match step.operation with
  | .reset => true
  | _ => false

namespace Action

/-- What is done under a sink is under that sink or under one inside it. -/
theorem isSome_sink_of_trace :
    (∀ (action : Action) (compiler : Compiler) (sink : Option Nat), sink.isSome →
        ∀ step ∈ (action.trace compiler sink).steps, step.sink.isSome) ∧
      ∀ (actions : List Action) (compiler : Compiler) (sink : Option Nat), sink.isSome →
        ∀ step ∈ (traceAll compiler sink actions).steps, step.sink.isSome := by
  apply tree_induction
  case perform =>
    intro operation compiler sink inSink step stepMem
    cases List.mem_singleton.mp stepMem
    exact inSink
  case withSink => exact fun inner actions ih compiler sink _ => ih compiler (some inner) rfl
  case attempt => exact fun actions ih => ih
  case throw => exact fun _ _ _ step stepMem => absurd stepMem List.not_mem_nil
  case nil => exact fun _ _ _ step stepMem => absurd stepMem List.not_mem_nil
  case cons =>
    intro action actions headInside tailInside compiler sink inSink
    rw [traceAll]
    split
    · exact headInside compiler sink inSink
    · exact List.forall_mem_append.mpr
        ⟨headInside compiler sink inSink, tailInside _ sink inSink⟩

end Action

namespace Session

variable {session : Session} {step : Step} {steps : List Step}

theorem receivedBy_follow (sameCompiler : step.compiler = session.compiler) (sink : Nat) :
    (session.follow step).recorder.receivedBy sink =
      session.recorder.receivedBy sink ++ if step.sink = some sink then step.events else [] := by
  rcases step with ⟨compiler, inForce, operation⟩
  cases sameCompiler
  have silent : session.recorder.receivedBy sink =
      session.recorder.receivedBy sink ++ if inForce = some sink then [] else [] := by
    rw [ite_self, List.append_nil]
  cases operation with
  | compile query scope present =>
      have recorded := Request.receivedBy_compileRecorded
        ⟨session.compiler.context present, scope, query⟩ (session.under inForce).recorder sink
      refine recorded.trans ?_
      change (if inForce = some sink then _ else _) = _
      split
      · rfl
      · exact (List.append_nil _).symm
  | setUp options fields clock =>
      have kept := (session.under inForce).recorder_perform_setUp options fields clock
      exact (congrArg (Recorder.receivedBy · sink) kept).trans silent
  | _ => exact silent

theorem receivedBy_followAll (threaded : Threaded session.compiler steps) (sink : Nat) :
    (session.followAll steps).recorder.receivedBy sink =
      session.recorder.receivedBy sink ++
        (steps.filter fun step => step.sink = some sink).flatMap Step.events := by
  induction steps generalizing session with
  | nil => simp [followAll]
  | cons step steps ih =>
      rcases threaded_cons.mp threaded with ⟨sameCompiler, threaded⟩
      rw [followAll, List.foldl_cons, ← followAll, ih threaded, receivedBy_follow sameCompiler]
      by_cases here : step.sink = some sink <;> simp [here]

theorem receivedBy_run (session : Session) (actions : List Action) (sink : Nat) :
    (session.run actions).2.recorder.receivedBy sink =
      session.recorder.receivedBy sink ++
        ((Action.traceAll session.compiler session.recorder.inForce actions).steps.filter
          fun step => step.sink = some sink).flatMap Step.events := by
  rw [(follows_run.2 actions session).last]
  exact receivedBy_followAll (Action.threaded_trace.2 actions _ _) sink

theorem inForce_run (session : Session) (actions : List Action) :
    (session.run actions).2.recorder.inForce = session.recorder.inForce := by
  rw [(follows_run.2 actions session).last, inForce_followAll]

/-- Steps under sinks keep the counters, unless there is a reset among them. -/
theorem foldl_note_of_isSome (inside : ∀ step ∈ steps, step.sink.isSome) (report : CompileReport) :
    (steps.filterMap Step.mark?).foldl .note report =
      if steps.any Step.isReset then {} else report := by
  induction steps generalizing report with
  | nil => rfl
  | cons step steps ih =>
      rcases List.forall_mem_cons.mp inside with ⟨headInside, tailInside⟩
      rcases step with ⟨compiler, sink, operation⟩
      cases operation with
      | reset => exact (ih tailInside {}).trans (ite_self _)
      | compile query scope present =>
          cases sink with
          | none => cases headInside
          | some sink => exact ih tailInside report
      | _ => exact ih tailInside report

/-- Sinks nest. Each sink receives the events of the compilations directly under it, in order: a
compilation is reported by its start and its end, or by its start alone if it panics. Compilations
outside of all sinks report to the sink in force before them, or to the counters if there is none.
After actions under a sink, whether they were left early or not, the sink in force before them is in
force again, and the counters are as before, unless they were reset. -/
theorem events_of_sinks (session : Session) (actions : List Action) :
    let last := (session.run actions).2
    let steps := (Action.traceAll session.compiler session.recorder.inForce actions).steps
    (∀ sink, last.recorder.receivedBy sink =
        session.recorder.receivedBy sink ++
          (steps.filter fun step => step.sink = some sink).flatMap Step.events) ∧
      (∀ request : Request,
        (∀ compilation, request.outcome = .ok compilation →
          request.events = [.start, .finish compilation.termCount compilation.guarded
            !request.scope.isEmpty]) ∧
        (∀ error, request.outcome = refuse error → request.events = [.start, .failed error.label]) ∧
        (request.outcome = .error .panicked → request.events = [.start])) ∧
      last.recorder.report = (steps.filterMap Step.mark?).foldl .note session.recorder.report ∧
      last.recorder.inForce = session.recorder.inForce ∧
      ∀ sink,
        let after := (session.act (.withSink sink actions)).2
        let inside := (Action.traceAll session.compiler (some sink) actions).steps
        (∀ other, after.recorder.receivedBy other =
            session.recorder.receivedBy other ++
              (inside.filter fun step => step.sink = some other).flatMap Step.events) ∧
          after.recorder.inForce = session.recorder.inForce ∧
          after.recorder.report =
            if inside.any Step.isReset then {} else session.recorder.report := by
  intro last steps
  refine ⟨session.receivedBy_run actions, ?_, session.report_run actions,
    session.inForce_run actions, ?_⟩
  · intro request
    refine ⟨?_, ?_, ?_⟩
    · intro compilation succeeds
      rw [Request.events, succeeds]
    · intro error fails
      rw [Request.events, fails]
    · intro panics
      rw [Request.events, panics]
  · intro sink after inside
    refine ⟨(session.under (some sink)).receivedBy_run actions, rfl, ?_⟩
    have report := (session.under (some sink)).report_run actions
    rw [foldl_note_of_isSome (Action.isSome_sink_of_trace.2 actions _ _ rfl)] at report
    exact report

/-- A compilation that panics under a sink sends the sink its start and no end. -/
theorem receivedBy_lastEvening :
    let compiler : Compiler := { catalog := .empty, options := { unknownFields := .infer } }
    let last :=
      (run { compiler } [.withSink 0 [.perform (.compile .lastEvening {} .epoch)]]).2
    last.recorder.receivedBy 0 = [.start] ∧ last.recorder.inForce = none ∧
      last.recorder.report = {} := by
  intro compiler last
  exact ⟨by decide, rfl, rfl⟩

/-- The query after the inner sink, which is left early, reports to the outer one again. -/
example :
    let compiler : Compiler := { catalog := .empty }
    let never : Query := { predicate := some (.constant (.bool false)) }
    let compiling (query : Query) : Action := .perform (.compile query {} .epoch)
    let last := (run { compiler }
      [.withSink 7 [compiling never, .attempt [.withSink 8 [compiling {}, .throw, compiling {}]],
        compiling {}], compiling never]).2
    last.recorder.receivedBy 7 =
        [.start, .failed "constant_predicate", .start, .finish 1 true false] ∧
      last.recorder.receivedBy 8 = [.start, .finish 1 true false] := by
  decide

end Session

end ContentQuery
