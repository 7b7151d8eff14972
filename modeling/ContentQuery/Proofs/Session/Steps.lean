import ContentQuery.Proofs.Telemetry.Recount
import ContentQuery.Session

/-!
# Steps of a session

Actions form a tree with operations at its leaves. The steps of a tree are the operations that are
carried out, in order, each with the compiler in use and the sink in force: the innermost sink that
it is under. What unwinds cuts off the steps after it, up to the innermost attempt. All of this is
read off the tree, and off the compiler and the sink that it starts with, with no recorder involved.

The main statement is that a run does what its steps do one after the other. So what is shown of one
step carries over to runs by induction on the steps.
-/

namespace ContentQuery

/-- An operation that is carried out. -/
structure Step where
  /-- The compiler in use. -/
  compiler : Compiler
  /-- The innermost sink that the operation is under. -/
  sink : Option Nat
  operation : Operation

namespace Step

/-- The compilation that the step is, if it is one. -/
def request? (step : Step) : Option Request :=
  match step.operation with
  | .compile query scope present => some ⟨step.compiler.context present, scope, query⟩
  | _ => none

def panics (step : Step) : Bool :=
  step.request?.any Request.panics

/-- The events that report the step. -/
def events (step : Step) : List MetricsEvent :=
  step.request?.elim [] Request.events

end Step

namespace Compiler

/-- The compiler that an operation leaves in use. -/
def after (compiler : Compiler) : Operation → Compiler
  | .replace other => other
  | .setUp options fields clock =>
    ((ofDocuments options fields).toOption.map (withClock · clock)).getD compiler
  | .registerType handler contentType => compiler.registerType handler contentType
  | .setClock clock => compiler.withClock clock
  | .publish catalog => compiler.publish catalog
  | .update change => compiler.update change
  | .options | .compile _ _ _ | .report | .reset | .takeLog => compiler

def afterAll (compiler : Compiler) (operations : List Operation) : Compiler :=
  operations.foldl after compiler

@[simp]
theorem afterAll_append (compiler : Compiler) (first second : List Operation) :
    compiler.afterAll (first ++ second) = (compiler.afterAll first).afterAll second :=
  List.foldl_append

end Compiler

/-- What actions do. -/
structure Trace where
  steps : List Step
  unwinds : Bool

def Trace.operations (trace : Trace) : List Operation :=
  trace.steps.map Step.operation

namespace Action

mutual

def trace (compiler : Compiler) (sink : Option Nat) : Action → Trace
  | perform operation => ⟨[⟨compiler, sink, operation⟩], Step.panics ⟨compiler, sink, operation⟩⟩
  | withSink inner actions => traceAll compiler (some inner) actions
  | attempt actions => ⟨(traceAll compiler sink actions).steps, false⟩
  | throw => ⟨[], true⟩

/-- The trace of actions in turn, up to the first one that unwinds. -/
def traceAll (compiler : Compiler) (sink : Option Nat) : List Action → Trace
  | [] => ⟨[], false⟩
  | action :: actions =>
    let first := trace compiler sink action
    if first.unwinds then first
    else
      let later := traceAll (compiler.afterAll first.operations) sink actions
      ⟨first.steps ++ later.steps, later.unwinds⟩

end

example :
    let actions : List Action :=
      [.withSink 1 [.perform .reset, .attempt [.withSink 2 [.perform .report, .throw]],
        .perform .takeLog], .perform .options]
    (traceAll {} none actions).steps.map Step.sink = [some 1, some 2, some 1, none] :=
  rfl

/-- Induction over trees of actions and over the lists in them. -/
theorem tree_induction {motive : Action → Prop} {motives : List Action → Prop}
    (perform : ∀ operation, motive (perform operation))
    (withSink : ∀ sink actions, motives actions → motive (withSink sink actions))
    (attempt : ∀ actions, motives actions → motive (attempt actions))
    (throw : motive throw)
    (nil : motives [])
    (cons : ∀ action actions, motive action → motives actions → motives (action :: actions)) :
    (∀ action, motive action) ∧ ∀ actions, motives actions :=
  ⟨@Action.rec motive motives perform withSink attempt throw nil cons,
    @Action.rec_1 motive motives perform withSink attempt throw nil cons⟩

end Action

/-! ### Compilers of steps -/

/-- Each step has the compiler that the steps before it lead to. -/
def Threaded : Compiler → List Step → Prop
  | _, [] => True
  | compiler, step :: steps =>
    step.compiler = compiler ∧ Threaded (compiler.after step.operation) steps

theorem threaded_append {compiler : Compiler} {first second : List Step} :
    Threaded compiler (first ++ second) ↔
      Threaded compiler first ∧
        Threaded (compiler.afterAll (first.map Step.operation)) second := by
  induction first generalizing compiler with
  | nil => simp [Threaded, Compiler.afterAll]
  | cons step steps ih =>
      rw [List.cons_append, Threaded, Threaded, ih, and_assoc]
      rfl

namespace Action

theorem threaded_trace :
    (∀ (action : Action) (compiler : Compiler) (sink : Option Nat),
        Threaded compiler (action.trace compiler sink).steps) ∧
      ∀ (actions : List Action) (compiler : Compiler) (sink : Option Nat),
        Threaded compiler (traceAll compiler sink actions).steps := by
  apply tree_induction
  case perform => exact fun _ _ _ => ⟨rfl, trivial⟩
  case withSink => exact fun inner actions ih compiler sink => ih compiler (some inner)
  case attempt => exact fun actions ih => ih
  case throw => exact fun _ _ => trivial
  case nil => exact fun _ _ => trivial
  case cons =>
    intro action actions headThreaded tailThreaded compiler sink
    rw [traceAll]
    split
    · exact headThreaded compiler sink
    · exact threaded_append.mpr ⟨headThreaded compiler sink, tailThreaded _ sink⟩

end Action

/-! ### One step -/

namespace Session

variable {session : Session}

@[simp]
theorem under_under (session : Session) (first second : Option Nat) :
    (session.under first).under second = session.under second :=
  rfl

@[simp]
theorem under_inForce (session : Session) : session.under session.recorder.inForce = session :=
  rfl

theorem perform_setUp_cases (session : Session) (options fields : String) (clock : Clock) :
    (∃ compiler, Compiler.ofDocuments options fields = .ok compiler ∧
        session.perform (.setUp options fields clock) =
          (.done, { session with compiler := compiler.withClock clock })) ∨
      ∃ error, Compiler.ofDocuments options fields = .error error ∧
        session.perform (.setUp options fields clock) = (.setupFailed error, session) := by
  rw [perform.eq_def]
  dsimp only
  cases Compiler.ofDocuments options fields with
  | ok compiler => exact .inl ⟨compiler, rfl, rfl⟩
  | error error => exact .inr ⟨error, rfl, rfl⟩

theorem recorder_perform_setUp (session : Session) (options fields : String) (clock : Clock) :
    (session.perform (.setUp options fields clock)).2.recorder = session.recorder := by
  rcases session.perform_setUp_cases options fields clock with
    ⟨compiler, _, performs⟩ | ⟨error, _, performs⟩ <;> rw [performs]

theorem compiler_perform (session : Session) (operation : Operation) :
    (session.perform operation).2.compiler = session.compiler.after operation := by
  cases operation with
  | setUp options fields clock =>
      rcases session.perform_setUp_cases options fields clock with
        ⟨compiler, reads, performs⟩ | ⟨error, reads, performs⟩ <;>
        rw [performs, Compiler.after, reads] <;> rfl
  | _ => rfl

theorem inForce_perform (session : Session) (operation : Operation) :
    (session.perform operation).2.recorder.inForce = session.recorder.inForce := by
  cases operation with
  | setUp options fields clock => rw [recorder_perform_setUp]
  | compile query scope present =>
      exact (Recorder.inForce_conclude _ _ _ _).trans (Recorder.inForce_record _ _)
  | _ => rfl

theorem panicked_perform (session : Session) (sink : Option Nat) (operation : Operation) :
    (session.perform operation).1.panicked = Step.panics ⟨session.compiler, sink, operation⟩ := by
  cases operation with
  | setUp options fields clock =>
      rcases session.perform_setUp_cases options fields clock with
        ⟨compiler, _, performs⟩ | ⟨error, _, performs⟩ <;> rw [performs] <;> rfl
  | compile query scope present =>
      change Reply.panicked (.compiled (((query.outcome _ scope).map _).mapError _)) =
        Request.panics ⟨_, scope, query⟩
      rw [Request.panics, Request.outcome]
      rcases query.outcome (session.compiler.context present) scope with
        (error | _) | compilation <;> rfl
  | _ => rfl

/-- The session after a step, which is carried out under its own sink. -/
def follow (session : Session) (step : Step) : Session :=
  ((session.under step.sink).perform step.operation).2.under session.recorder.inForce

def replyTo (session : Session) (step : Step) : Reply :=
  ((session.under step.sink).perform step.operation).1

theorem compiler_follow (session : Session) (step : Step) :
    (session.follow step).compiler = session.compiler.after step.operation :=
  compiler_perform _ step.operation

theorem threaded_cons {step : Step} {steps : List Step} :
    Threaded session.compiler (step :: steps) ↔
      step.compiler = session.compiler ∧ Threaded (session.follow step).compiler steps := by
  rw [Threaded, compiler_follow]

/-! ### All steps -/

def followAll (session : Session) (steps : List Step) : Session :=
  steps.foldl follow session

/-- The replies to steps in turn. -/
def replies : Session → List Step → List Reply
  | _, [] => []
  | session, step :: steps => session.replyTo step :: (session.follow step).replies steps

theorem followAll_append (session : Session) (first second : List Step) :
    session.followAll (first ++ second) = (session.followAll first).followAll second :=
  List.foldl_append

theorem replies_append (session : Session) (first second : List Step) :
    session.replies (first ++ second) =
      session.replies first ++ (session.followAll first).replies second := by
  induction first generalizing session with
  | nil => rfl
  | cons step steps ih =>
      rw [List.cons_append, replies, replies, ih]
      rfl

theorem compiler_followAll (session : Session) (steps : List Step) :
    (session.followAll steps).compiler = session.compiler.afterAll (steps.map Step.operation) := by
  induction steps generalizing session with
  | nil => rfl
  | cons step steps ih =>
      rw [followAll, List.foldl_cons, ← followAll, ih, compiler_follow]
      rfl

@[simp]
theorem inForce_followAll (session : Session) (steps : List Step) :
    (session.followAll steps).recorder.inForce = session.recorder.inForce := by
  induction steps generalizing session with
  | nil => rfl
  | cons step steps ih => exact ih _

theorem followAll_under_inForce (session : Session) (steps : List Step) :
    (session.followAll steps).under session.recorder.inForce = session.followAll steps := by
  have kept := (session.followAll steps).under_inForce
  rwa [inForce_followAll] at kept

/-- Steps have their own sinks, so it does not matter which sink is in force around them. -/
theorem followAll_under (session : Session) (sink : Option Nat) (steps : List Step) :
    (session.under sink).followAll steps = (session.followAll steps).under sink := by
  induction steps generalizing session with
  | nil => rfl
  | cons step steps ih => exact ih (session.follow step)

theorem replies_under (session : Session) (sink : Option Nat) (steps : List Step) :
    (session.under sink).replies steps = session.replies steps := by
  induction steps generalizing session with
  | nil => rfl
  | cons step steps ih => exact congrArg (session.replyTo step :: ·) (ih (session.follow step))

end Session

/-! ### Runs -/

namespace Answer

mutual

/-- The replies in an answer, those under sinks and in attempts included. -/
def replies : Answer → List Reply
  | reply given => [given]
  | sink answers _ | attempt answers _ => repliesOfAll answers
  | thrown => []

/-- The replies in answers in turn. -/
def repliesOfAll : List Answer → List Reply
  | [] => []
  | answer :: answers => answer.replies ++ repliesOfAll answers

end

end Answer

namespace Session

/-- What comes of actions is what comes of the steps of their trace. -/
structure Follows (session : Session) (trace : Trace) (answers : List Answer) (last : Session) :
    Prop where
  last : last = session.followAll trace.steps
  unwinds : answers.any Answer.unwinds = trace.unwinds
  replies : Answer.repliesOfAll answers = session.replies trace.steps

theorem run_cons_of_act {session after : Session} {action : Action} {answer : Answer}
    (acts : session.act action = (answer, after)) (actions : List Action) :
    session.run (action :: actions) =
      if answer.unwinds then ([answer], after)
      else (answer :: (after.run actions).1, (after.run actions).2) := by
  rw [run.eq_def]
  simp only [acts]

theorem follows_nil (session : Session) : session.Follows ⟨[], false⟩ [] session :=
  ⟨rfl, rfl, rfl⟩

theorem follows_perform (session : Session) (operation : Operation) :
    session.Follows ((Action.perform operation).trace session.compiler session.recorder.inForce)
      [.reply (session.perform operation).1] (session.perform operation).2 where
  last := by
    have kept := inForce_perform session operation
    change _ = (session.perform operation).2.under session.recorder.inForce
    rw [← kept, under_inForce]
  unwinds := by
    rw [List.any_cons, List.any_nil, Bool.or_false]
    exact panicked_perform session session.recorder.inForce operation
  replies := rfl

/-- A run does what its steps do, one after the other. -/
theorem follows_run :
    (∀ (action : Action) (session : Session),
        session.Follows (action.trace session.compiler session.recorder.inForce)
          [(session.act action).1] (session.act action).2) ∧
      ∀ (actions : List Action) (session : Session),
        session.Follows (Action.traceAll session.compiler session.recorder.inForce actions)
          (session.run actions).1 (session.run actions).2 := by
  apply Action.tree_induction
  case perform => exact fun operation session => session.follows_perform operation
  case withSink =>
    intro sink actions ih session
    rcases ih (session.under (some sink)) with ⟨last, unwinds, replies⟩
    constructor
    · change ((session.under (some sink)).run actions).2.under session.recorder.inForce = _
      rw [last, followAll_under, under_under, followAll_under_inForce]
      rfl
    · exact (Bool.or_false _).trans unwinds
    · rw [replies_under] at replies
      exact (List.append_nil _).trans replies
  case attempt =>
    intro actions ih session
    rcases ih session with ⟨last, _, replies⟩
    exact ⟨last, rfl, (List.append_nil _).trans replies⟩
  case throw => exact fun session => ⟨rfl, rfl, rfl⟩
  case nil => exact follows_nil
  case cons =>
    intro action actions headFollows tailFollows session
    rcases acts : session.act action with ⟨answer, after⟩
    have first : session.Follows (action.trace session.compiler session.recorder.inForce) [answer]
        after := by
      have acted := headFollows session
      rwa [acts] at acted
    have unwindsFirst : answer.unwinds =
        (action.trace session.compiler session.recorder.inForce).unwinds :=
      (Bool.or_false _).symm.trans first.unwinds
    rw [run_cons_of_act acts, Action.traceAll, ← unwindsFirst]
    cases unwinds : answer.unwinds with
    | true => exact first
    | false =>
        have sameCompiler : after.compiler = session.compiler.afterAll
            (action.trace session.compiler session.recorder.inForce).operations := by
          rw [first.last, compiler_followAll]
          rfl
        have sameForce : after.recorder.inForce = session.recorder.inForce := by
          rw [first.last, inForce_followAll]
        have later := tailFollows after
        rw [sameCompiler, sameForce] at later
        rw [if_neg Bool.false_ne_true, if_neg Bool.false_ne_true]
        constructor
        · rw [followAll_append, ← first.last]
          exact later.last
        · rw [List.any_cons, unwinds, Bool.false_or]
          exact later.unwinds
        · rw [replies_append, ← first.last, ← first.replies, ← later.replies]
          simp [Answer.repliesOfAll]

end Session

end ContentQuery
