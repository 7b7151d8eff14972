import ContentQuery.Compiler

/-!
# Sessions

A session is a compiler with the recorder that its compilations report to. Actions are carried out
on it in turn. They form a tree: actions can be put under a sink, which then receives the events of
the compilations among them, and sinks nest. The same sink may be used more than once. Time passes
between compilations, so each of them comes with its own present time.

A throw and a compilation that panics unwind: the actions after them are given up, up to the
innermost attempt around them. When the actions under a sink end, in whichever way, the sink in
force before them is in force again.
-/

namespace ContentQuery

/-- Something done with a compiler. -/
inductive Operation where
  /-- Goes on with another compiler. -/
  | replace (compiler : Compiler)
  /-- Sets up another compiler from documents and lets it go by a clock. -/
  | setUp (options fields : String) (clock : Clock)
  | registerType (handler : Handler) (contentType : String)
  | setClock (clock : Clock)
  | options
  | publish (catalog : FieldCatalog)
  | update (change : FieldCatalog → FieldCatalog)
  /-- Compiles a query at a present time. -/
  | compile (query : Query) (scope : Scope) (present : Timestamp)
  | report
  | reset
  /-- Takes all entries out of the log. -/
  | takeLog

/-- The reply to an operation. -/
inductive Reply where
  | done
  | setupFailed (error : SetupError)
  | options (options : Options)
  /-- The catalog that was published before. -/
  | published (previous : FieldCatalog)
  | compiled (outcome : Except (Stop Failure) CompiledText)
  | report (report : CompileReport)
  | log (entries : List LogEntry)

/-- The operation panicked. -/
def Reply.panicked : Reply → Bool
  | compiled (.error .panicked) => true
  | _ => false

/-- A tree of operations. -/
inductive Action where
  | perform (operation : Operation)
  /-- Runs actions under a sink. -/
  | withSink (sink : Nat) (actions : List Action)
  /-- Runs actions and catches what unwinds out of them. -/
  | attempt (actions : List Action)
  | throw

/-- What comes of an action. -/
inductive Answer where
  | reply (reply : Reply)
  /-- The answers to actions under a sink, and whether the last of them unwound. -/
  | sink (answers : List Answer) (unwound : Bool)
  /-- The answers to actions that were attempted, and whether the last of them unwound. -/
  | attempt (answers : List Answer) (unwound : Bool)
  | thrown

/-- The action unwound, and what comes after it is given up. -/
def Answer.unwinds : Answer → Bool
  | reply given => given.panicked
  | sink _ unwound => unwound
  | attempt _ _ => false
  | thrown => true

/-- A compiler with the recorder that its compilations report to. -/
structure Session where
  compiler : Compiler := {}
  recorder : Recorder := {}

namespace Session

/-- The session with a sink in force, or none. -/
def under (session : Session) (sink : Option Nat) : Session :=
  { session with recorder := { session.recorder with inForce := sink } }

/-- The reply to an operation, and the session after it. -/
def perform (session : Session) : Operation → Reply × Session
  | .replace compiler => (.done, { session with compiler })
  | .setUp options fields clock =>
    match Compiler.ofDocuments options fields with
    | .ok compiler => (.done, { session with compiler := compiler.withClock clock })
    | .error error => (.setupFailed error, session)
  | .registerType handler contentType =>
    (.done, { session with compiler := session.compiler.registerType handler contentType })
  | .setClock clock => (.done, { session with compiler := session.compiler.withClock clock })
  | .options => (.options session.compiler.options, session)
  | .publish catalog =>
    (.published session.compiler.catalog,
      { compiler := session.compiler.publish catalog
        recorder := session.recorder.write (.publishing catalog.size) })
  | .update change => (.done, { session with compiler := session.compiler.update change })
  | .compile query scope present =>
    let (outcome, recorder) := session.compiler.compile present scope query session.recorder
    (.compiled outcome, { session with recorder })
  | .report => (.report session.recorder.report, session)
  | .reset => (.done, { session with recorder := session.recorder.reset })
  | .takeLog =>
    (.log session.recorder.log, { session with recorder := { session.recorder with log := [] } })

mutual

/-- What comes of an action, and the session after it. -/
def act (session : Session) : Action → Answer × Session
  | .perform operation =>
    let (reply, after) := session.perform operation
    (.reply reply, after)
  | .withSink sink actions =>
    let (answers, after) := run (session.under (some sink)) actions
    (.sink answers (answers.any Answer.unwinds), after.under session.recorder.inForce)
  | .attempt actions =>
    let (answers, after) := run session actions
    (.attempt answers (answers.any Answer.unwinds), after)
  | .throw => (.thrown, session)

/-- What comes of actions in turn, up to the first one that unwinds. -/
def run (session : Session) : List Action → List Answer × Session
  | [] => ([], session)
  | action :: actions =>
    let (answer, after) := act session action
    if answer.unwinds then ([answer], after)
    else
      let (answers, last) := run after actions
      (answer :: answers, last)

end

end Session

end ContentQuery
