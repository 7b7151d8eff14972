import ContentQuery.Clause.Basic
import ContentQuery.Expr.Basic

/-!
# Queries

A query is a predicate with a sort order, a page and flags for the engine. `Query` is what a caller
writes, with an expression and the field names of the catalog; `CompiledQuery` is what is printed,
with a clause and the field names of the index.
-/

namespace ContentQuery

inductive SortDirection where
  | ascending
  | descending
deriving DecidableEq, Repr

/-- A field to sort by. -/
structure SortKey where
  field : String
  direction : SortDirection
deriving DecidableEq, Repr

/-- How many results to skip and how many to return at most. -/
structure Page where
  skip : Option UInt32 := none
  top : Option UInt32 := none
deriving DecidableEq, Repr

/-- Whether the engine adds its own filters. By default it does. -/
inductive AutofilterMode where
  | default
  | disabled
deriving DecidableEq, Repr

/-- Whether the engine heeds the lifespan of items. By default it does not. -/
inductive LifespanMode where
  | default
  | enabled
deriving DecidableEq, Repr

/-- A hint for the execution of a query, handed on beside its text. -/
inductive ExecutionMode where
  | default
  | strict
  | quick
deriving DecidableEq, Repr

/-- Settings for the engine. -/
structure QueryFlags where
  autofilters : AutofilterMode := .default
  lifespan : LifespanMode := .default
  executionMode : ExecutionMode := .default
deriving DecidableEq, Repr

/-- A query as a caller writes it. -/
structure Query where
  predicate : Option Expr := none
  sort : List SortKey := []
  page : Page := {}
  flags : QueryFlags := {}
deriving Repr

/-- A query ready to be printed. Without a predicate it matches every content item. -/
structure CompiledQuery where
  predicate : Option Clause := none
  sort : List SortKey := []
  page : Page := {}
  flags : QueryFlags := {}
deriving Repr

/-- The text of a query with the hint for its execution. -/
structure CompiledText where
  text : String
  executionMode : ExecutionMode
deriving DecidableEq, Repr

end ContentQuery
