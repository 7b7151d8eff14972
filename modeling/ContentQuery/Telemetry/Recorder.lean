import ContentQuery.Query.Compile
import ContentQuery.Telemetry.Report

/-!
# Recorders

A recorder holds the counters, what each sink has received, which sink is in force, and the log.
Events go to the sink in force if there is one and to the counters otherwise; log entries always go
to the log. Sinks are shared objects that outlast their being in force, so they are known by their
identity.
-/

namespace ContentQuery

inductive LogLevel where
  | debug
  | info
  | warn
deriving DecidableEq, Repr

/-- A line of the log. -/
inductive LogEntry where
  | compiled (level : LogLevel) (query : String) (terms : Nat) (guarded : Bool)
  | failed (error : CompileError)
  | publishing (fields : Nat)
deriving DecidableEq, Repr

namespace LogEntry

/-- The level of an entry. -/
def level : LogEntry → LogLevel
  | compiled level _ _ _ => level
  | failed _ => .warn
  | publishing _ => .info

/-- The message of an entry. -/
def message : LogEntry → String
  | compiled _ _ _ _ => "compiled query"
  | failed _ => "query compilation failed"
  | publishing _ => "publishing field catalog"

end LogEntry

/-- The word for a level. -/
def LogLevel.name : LogLevel → String
  | debug => "DEBUG"
  | info => "INFO"
  | warn => "WARN"

/-- Where events and log entries are kept. -/
structure Recorder where
  report : CompileReport := {}
  /-- The events that each sink has received. -/
  received : Std.ExtTreeMap Nat (List MetricsEvent) := ∅
  /-- The sink that events go to. -/
  inForce : Option Nat := none
  log : List LogEntry := []
deriving DecidableEq

namespace Recorder

/-- The events that a sink has received. -/
def receivedBy (recorder : Recorder) (sink : Nat) : List MetricsEvent :=
  recorder.received.getD sink []

/-- Hands an event to the sink in force or to the counters. -/
def record (recorder : Recorder) (event : MetricsEvent) : Recorder :=
  match recorder.inForce with
  | some sink =>
    { recorder with
      received := recorder.received.insert sink (recorder.receivedBy sink ++ [event]) }
  | none => { recorder with report := recorder.report.count event }

@[simp]
theorem inForce_record (recorder : Recorder) (event : MetricsEvent) :
    (recorder.record event).inForce = recorder.inForce := by
  rw [record]
  split <;> rfl

theorem report_record (recorder : Recorder) (event : MetricsEvent) :
    (recorder.record event).report =
      if recorder.inForce = none then recorder.report.count event else recorder.report := by
  rw [record]
  split <;> simp [*]

theorem receivedBy_record (recorder : Recorder) (event : MetricsEvent) (sink : Nat) :
    (recorder.record event).receivedBy sink =
      if recorder.inForce = some sink then recorder.receivedBy sink ++ [event]
      else recorder.receivedBy sink := by
  rw [record]
  split
  next current inForce =>
    simp only [receivedBy, Std.ExtTreeMap.getD_insert, inForce, Option.some.injEq]
    by_cases same : current = sink <;> simp [same]
  next inForce => simp [receivedBy, inForce]

/-- Adds an entry to the log. -/
def write (recorder : Recorder) (entry : LogEntry) : Recorder :=
  { recorder with log := recorder.log ++ [entry] }

@[simp]
theorem report_write (recorder : Recorder) (entry : LogEntry) :
    (recorder.write entry).report = recorder.report :=
  rfl

@[simp]
theorem inForce_write (recorder : Recorder) (entry : LogEntry) :
    (recorder.write entry).inForce = recorder.inForce :=
  rfl

@[simp]
theorem receivedBy_write (recorder : Recorder) (entry : LogEntry) (sink : Nat) :
    (recorder.write entry).receivedBy sink = recorder.receivedBy sink :=
  rfl

/-- Starts the counters anew. -/
def reset (recorder : Recorder) : Recorder :=
  { recorder with report := {} }

/-- Records how a compilation has ended. After a panic there is nothing more to record. -/
def conclude (recorder : Recorder) (options : Options) (scope : Scope) :
    Except (Stop CompileError) Compilation → Recorder
  | .ok compilation =>
    let level := if options.traceQueries then .info else .debug
    let entry := .compiled level compilation.query.text compilation.termCount compilation.guarded
    (recorder.write entry).record
      (.finish compilation.termCount compilation.guarded !scope.isEmpty)
  | .error (.refused error) => (recorder.write (.failed error)).record (.failed error.label)
  | .error .panicked => recorder

@[simp]
theorem inForce_conclude (recorder : Recorder) (options : Options) (scope : Scope)
    (outcome : Except (Stop CompileError) Compilation) :
    (recorder.conclude options scope outcome).inForce = recorder.inForce := by
  rcases outcome with (error | _) | compilation
  · exact inForce_record _ _
  · rfl
  · exact inForce_record _ _

end Recorder

/-- Compiles a query and records how it went. -/
def Query.compileRecorded (context : Context) (scope : Scope) (query : Query)
    (recorder : Recorder) : Except (Stop CompileError) CompiledText × Recorder :=
  let outcome := query.outcome context scope
  (outcome.map Compilation.compiledText,
    (recorder.record .start).conclude context.options scope outcome)

end ContentQuery
