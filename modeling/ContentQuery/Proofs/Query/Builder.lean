import ContentQuery.Query.Builder
import Mathlib.Data.List.DropRight

/-!
# Queries built in steps

Each step bears on one part of a query. A filter adds to the filters before it, a primary sort key
takes the place of all sort keys before it, and what is set otherwise takes the place of what was
set before.

The main statement reads the parts of a query off the steps that build it. Steps that bear on
different parts can therefore be taken in any order.
-/

namespace ContentQuery

namespace QueryStep

/-- What a step bears on. -/
inductive Kind where
  | filter
  | sort
  | skip
  | take
  | autofilters
  | lifespan
  | executionMode
deriving DecidableEq, Repr

def kind : QueryStep → Kind
  | filter _ | ofType _ => .filter
  | orderBy _ _ | thenBy _ _ => .sort
  | skip _ => .skip
  | take _ => .take
  | autofilters _ => .autofilters
  | lifespan _ => .lifespan
  | executionMode _ => .executionMode

def predicate? : QueryStep → Option Expr
  | filter predicate => some predicate
  | ofType handler => some (.handlerIs handler)
  | _ => none

def primaryKey? : QueryStep → Option SortKey
  | orderBy field direction => some ⟨field, direction⟩
  | _ => none

def secondaryKey? : QueryStep → Option SortKey
  | thenBy field direction => some ⟨field, direction⟩
  | _ => none

def skip? : QueryStep → Option UInt32
  | skip count => some count
  | _ => none

def take? : QueryStep → Option UInt32
  | take count => some count
  | _ => none

def autofilters? : QueryStep → Option AutofilterMode
  | autofilters mode => some mode
  | _ => none

def lifespan? : QueryStep → Option LifespanMode
  | lifespan mode => some mode
  | _ => none

def executionMode? : QueryStep → Option ExecutionMode
  | executionMode mode => some mode
  | _ => none

variable {Value : Type} {given? : QueryStep → Option Value} {steps : List QueryStep}

/-- What the last step gives that gives something. -/
def last (given? : QueryStep → Option Value) (steps : List QueryStep) : Option Value :=
  (steps.filterMap given?).getLast?

/-- The last primary key and the secondary keys after it, or all secondary keys if there is no
primary one. -/
def sortKeys (steps : List QueryStep) : List SortKey :=
  (last primaryKey? steps).toList ++
    (steps.rtakeWhile fun step => step.primaryKey?.isNone).filterMap secondaryKey?

theorem last_concat (step : QueryStep) :
    last given? (steps ++ [step]) = (given? step).or (last given? steps) := by
  cases given : given? step <;> simp [last, given]

theorem sortKeys_concat (step : QueryStep) :
    sortKeys (steps ++ [step]) =
      match step.primaryKey? with
      | some key => [key]
      | none => sortKeys steps ++ step.secondaryKey?.toList := by
  rw [sortKeys, last_concat, List.rtakeWhile_concat]
  cases step <;> simp [sortKeys, primaryKey?, secondaryKey?]

/-! ### Steps of one kind -/

theorem filterMap_filter_kind {kind : Kind}
    (ofKind : ∀ step, step.kind ≠ kind → given? step = none) (steps : List QueryStep) :
    (steps.filter (·.kind = kind)).filterMap given? = steps.filterMap given? := by
  rw [List.filterMap_filter]
  apply List.filterMap_congr
  intro step _
  by_cases same : step.kind = kind
  · simp [same]
  · simp [same, ofKind step same]

theorem sortKeys_filter_kind (steps : List QueryStep) :
    sortKeys (steps.filter (·.kind = .sort)) = sortKeys steps := by
  induction steps using List.reverseRecOn with
  | nil => rfl
  | append_singleton steps step ih =>
      rw [List.filter_append, sortKeys_concat, ← ih]
      cases step with
      | orderBy | thenBy => exact sortKeys_concat _
      | _ => exact (congrArg sortKeys (List.append_nil _)).trans (List.append_nil _).symm

end QueryStep

/-- Expressions joined by conjunction, grouped to the left. -/
def Expr.conjunction : List Expr → Option Expr
  | [] => none
  | first :: rest => some (rest.foldl (.binary .and) first)

namespace Query

open QueryStep

variable {steps other : List QueryStep} {query : Query}

/-- The parts of a query are those that the steps give. -/
structure BuiltBy (steps : List QueryStep) (query : Query) : Prop where
  predicate : query.predicate = Expr.conjunction (steps.filterMap predicate?)
  sort : query.sort = sortKeys steps
  skip : query.page.skip = last skip? steps
  top : query.page.top = last take? steps
  autofilters : query.flags.autofilters = (last autofilters? steps).getD .default
  lifespan : query.flags.lifespan = (last lifespan? steps).getD .default
  executionMode : query.flags.executionMode = (last executionMode? steps).getD .default

/-! ### One step -/

theorem predicate_filter_of_conjunction {exprs : List Expr}
    (joined : query.predicate = Expr.conjunction exprs) (expr : Expr) :
    (query.filter expr).predicate = Expr.conjunction (exprs ++ [expr]) := by
  cases exprs with
  | nil => simp [filter, joined, Expr.conjunction]
  | cons first rest => simp [filter, joined, Expr.conjunction]

theorem predicate_apply (built : BuiltBy steps query) (step : QueryStep) :
    (query.apply step).predicate = Expr.conjunction ((steps ++ [step]).filterMap predicate?) := by
  rw [List.filterMap_append]
  cases step with
  | filter expr => exact predicate_filter_of_conjunction built.predicate expr
  | ofType handler => exact predicate_filter_of_conjunction built.predicate (.handlerIs handler)
  | _ => exact built.predicate.trans (congrArg Expr.conjunction (List.append_nil _).symm)

theorem sort_apply (built : BuiltBy steps query) (step : QueryStep) :
    (query.apply step).sort = sortKeys (steps ++ [step]) := by
  rw [sortKeys_concat, ← built.sort]
  cases step with
  | orderBy | thenBy => rfl
  | _ => exact (List.append_nil _).symm

/-- What a step does not give stays as it is. -/
theorem settings_apply (query : Query) (step : QueryStep) :
    (query.apply step).page = ⟨step.skip?.or query.page.skip, step.take?.or query.page.top⟩ ∧
      (query.apply step).flags =
        ⟨step.autofilters?.getD query.flags.autofilters, step.lifespan?.getD query.flags.lifespan,
          step.executionMode?.getD query.flags.executionMode⟩ := by
  cases step <;> exact ⟨rfl, rfl⟩

theorem BuiltBy.concat (built : BuiltBy steps query) (step : QueryStep) :
    BuiltBy (steps ++ [step]) (query.apply step) := by
  rcases settings_apply query step with ⟨page, flags⟩
  refine ⟨predicate_apply built step, sort_apply built step, ?_, ?_, ?_, ?_, ?_⟩
  · rw [last_concat, page, built.skip]
  · rw [last_concat, page, built.top]
  · rw [last_concat, flags, Option.getD_or, built.autofilters]
  · rw [last_concat, flags, Option.getD_or, built.lifespan]
  · rw [last_concat, flags, Option.getD_or, built.executionMode]

/-! ### All steps -/

theorem builtBy_ofSteps (steps : List QueryStep) : BuiltBy steps (ofSteps steps) := by
  induction steps using List.reverseRecOn with
  | nil => exact ⟨rfl, rfl, rfl, rfl, rfl, rfl, rfl⟩
  | append_singleton steps step ih =>
      rw [ofSteps, List.foldl_concat]
      exact ih.concat step

/-- For each part of a query only the steps of one kind count. -/
theorem BuiltBy.of_filter_kind (built : BuiltBy other query)
    (alike : ∀ kind : Kind, other.filter (·.kind = kind) = steps.filter (·.kind = kind)) :
    BuiltBy steps query := by
  have given {Value : Type} {given? : QueryStep → Option Value} (kind : Kind)
      (ofKind : ∀ step, step.kind ≠ kind → given? step = none) :
      steps.filterMap given? = other.filterMap given? := by
    rw [← filterMap_filter_kind ofKind, ← alike, filterMap_filter_kind ofKind]
  rcases built with ⟨predicate, sort, skip, top, autofilters, lifespan, executionMode⟩
  constructor
  case sort => rwa [← sortKeys_filter_kind, ← alike, sortKeys_filter_kind]
  case' predicate => rwa [given .filter]
  case' skip => rwa [last, given .skip]
  case' top => rwa [last, given .take]
  case' autofilters => rwa [last, given .autofilters]
  case' lifespan => rwa [last, given .lifespan]
  case' executionMode => rwa [last, given .executionMode]
  -- a step of another kind gives nothing
  all_goals
    intro step otherKind
    cases step <;> first | rfl | exact absurd rfl otherKind

theorem BuiltBy.unique {second : Query} (built : BuiltBy steps query)
    (builtToo : BuiltBy steps second) :
    query = second := by
  rcases query with ⟨predicate, sort, ⟨skip, top⟩, ⟨autofilters, lifespan, executionMode⟩⟩
  rcases second with ⟨predicate', sort', ⟨skip', top'⟩, ⟨autofilters', lifespan', executionMode'⟩⟩
  cases built
  cases builtToo
  simp_all

/-- The parts of a query are told by the steps that build it, each by the steps of one kind alone.
Where two lists have the same steps of each kind in the same order, they build the same query. -/
theorem ofSteps_of_kinds (steps : List QueryStep) :
    BuiltBy steps (ofSteps steps) ∧
      ∀ other : List QueryStep,
        (∀ kind : Kind, other.filter (·.kind = kind) = steps.filter (·.kind = kind)) →
          ofSteps other = ofSteps steps := by
  refine ⟨builtBy_ofSteps steps, ?_⟩
  intro other alike
  exact ((builtBy_ofSteps other).of_filter_kind alike).unique (builtBy_ofSteps steps)

/-- A secondary key in front of the primary one is dropped, and filters may as well
stand together. -/
theorem ofSteps_of_kinds_interleaved :
    let published : Expr := .binary .eq (.field "Published") (.constant (.bool true))
    let steps : List QueryStep :=
      [.thenBy "Owner" .ascending, .filter published, .orderBy "Name" .descending, .take 5,
        .ofType ⟨0, "Article"⟩, .thenBy "Id" .ascending, .lifespan .enabled, .take 10]
    let other : List QueryStep :=
      [.lifespan .enabled, .take 5, .take 10, .filter published, .ofType ⟨0, "Article"⟩,
        .thenBy "Owner" .ascending, .orderBy "Name" .descending, .thenBy "Id" .ascending]
    (∀ kind : Kind, other.filter (·.kind = kind) = steps.filter (·.kind = kind)) ∧
      ofSteps other = ofSteps steps ∧
      (ofSteps steps).predicate = some (.binary .and published (.handlerIs ⟨0, "Article"⟩)) ∧
      (ofSteps steps).sort = [⟨"Name", .descending⟩, ⟨"Id", .ascending⟩] ∧
      (ofSteps steps).page = ⟨none, some 10⟩ := by
  intro published steps other
  have alike (kind : Kind) : other.filter (·.kind = kind) = steps.filter (·.kind = kind) := by
    cases kind <;> rfl
  rcases ofSteps_of_kinds steps with ⟨built, determined⟩
  exact ⟨alike, determined other alike, built.predicate, built.sort, rfl⟩

end Query

end ContentQuery
