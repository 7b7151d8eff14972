import Std.Data.ExtTreeMap

/-!
# Compile counters

Every compilation is reported by two events, and a report counts events. Counters have 64 bits and
stay at their largest value once they have reached it.
-/

namespace ContentQuery

/-- What is reported about a compilation. -/
inductive MetricsEvent where
  | start
  | finish (terms : Nat) (guarded inScope : Bool)
  /-- A compilation failed with an error of the given label. -/
  | failed (label : String)
deriving DecidableEq, Repr

/-- The largest value of a counter. -/
def counterLimit : Nat := UInt64.size - 1

/-- A counter after an increase. -/
def increase (counter amount : Nat) : Nat :=
  min (counter + amount) counterLimit

/-- Counts of compilations. -/
structure CompileReport where
  started : Nat := 0
  succeeded : Nat := 0
  failed : Nat := 0
  termsEmitted : Nat := 0
  guardsAdded : Nat := 0
  inScope : Nat := 0
  /-- Failures by the label of their errors. -/
  failures : Std.ExtTreeMap String Nat := ∅
deriving DecidableEq

namespace CompileReport

/-- The number of failures with a label. -/
def failuresOf (report : CompileReport) (label : String) : Nat :=
  report.failures.getD label 0

/-- The report with one more event counted. -/
def count (report : CompileReport) : MetricsEvent → CompileReport
  | .start => { report with started := increase report.started 1 }
  | .finish terms guarded inScope =>
    { report with
      succeeded := increase report.succeeded 1
      termsEmitted := increase report.termsEmitted terms
      guardsAdded := increase report.guardsAdded guarded.toNat
      inScope := increase report.inScope inScope.toNat }
  | .failed label =>
    { report with
      failed := increase report.failed 1
      failures := report.failures.insert label (increase (report.failuresOf label) 1) }

end CompileReport

end ContentQuery
