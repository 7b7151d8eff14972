import ContentQuery.Query.Basic

/-!
# Building queries

Queries are built step by step and every step succeeds. Filters accumulate, a primary sort key
starts the sort order anew, and all other settings are overwritten.
-/

namespace ContentQuery

/-- A step in building a query. -/
inductive QueryStep where
  | filter (predicate : Expr)
  /-- Keeps the items backed by a handler's content type. -/
  | ofType (handler : Handler)
  /-- Sorts by a field and drops the sort order so far. -/
  | orderBy (field : String) (direction : SortDirection)
  /-- Adds a secondary sort key. -/
  | thenBy (field : String) (direction : SortDirection)
  | skip (count : UInt32)
  | take (count : UInt32)
  | autofilters (mode : AutofilterMode)
  | lifespan (mode : LifespanMode)
  | executionMode (mode : ExecutionMode)
deriving Repr

namespace QueryStep

/-- Sorts by a field in ascending order. -/
def orderByAscending (field : String) : QueryStep :=
  orderBy field .ascending

/-- Sorts by a field in descending order. -/
def orderByDescending (field : String) : QueryStep :=
  orderBy field .descending

/-- Adds a secondary sort key in ascending order. -/
def thenByAscending (field : String) : QueryStep :=
  thenBy field .ascending

/-- Adds a secondary sort key in descending order. -/
def thenByDescending (field : String) : QueryStep :=
  thenBy field .descending

/-- Lets the engine add its own filters. -/
def enableAutofilters : QueryStep :=
  autofilters .default

/-- Keeps the engine from adding its own filters. -/
def disableAutofilters : QueryStep :=
  autofilters .disabled

/-- Makes the engine heed the lifespan of items. -/
def enableLifespan : QueryStep :=
  lifespan .enabled

/-- Lets the engine ignore the lifespan of items. -/
def disableLifespan : QueryStep :=
  lifespan .default

end QueryStep

namespace Query

/-- Adds a filter to the filters so far. -/
def filter (query : Query) (predicate : Expr) : Query :=
  { query with
    predicate :=
      match query.predicate with
      | some existing => some (.binary .and existing predicate)
      | none => some predicate }

/-- Makes a field the primary sort key. -/
def orderBy (query : Query) (field : String) (direction : SortDirection) : Query :=
  { query with sort := [⟨field, direction⟩] }

/-- Adds a secondary sort key. -/
def thenBy (query : Query) (field : String) (direction : SortDirection) : Query :=
  { query with sort := query.sort ++ [⟨field, direction⟩] }

/-- The query after one more step. -/
def apply (query : Query) : QueryStep → Query
  | .filter predicate => query.filter predicate
  | .ofType handler => query.filter (.handlerIs handler)
  | .orderBy field direction => query.orderBy field direction
  | .thenBy field direction => query.thenBy field direction
  | .skip count => { query with page := { query.page with skip := some count } }
  | .take count => { query with page := { query.page with top := some count } }
  | .autofilters mode => { query with flags := { query.flags with autofilters := mode } }
  | .lifespan mode => { query with flags := { query.flags with lifespan := mode } }
  | .executionMode mode => { query with flags := { query.flags with executionMode := mode } }

/-- The query that a list of steps builds. -/
def ofSteps (steps : List QueryStep) : Query :=
  steps.foldl apply {}

end Query

end ContentQuery
