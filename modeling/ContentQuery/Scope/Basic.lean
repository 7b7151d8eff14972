import ContentQuery.Query.Basic

/-!
# Scopes

A scope restricts every query that is compiled for one listing. It may add a folder and a raw query
to the predicate, and it may override the page and the autofilters of the query.
-/

namespace ContentQuery

/-- How the base path of a scope joins the predicate. -/
inductive PathUsage where
  | none
  | inFolderAnd
  | inFolderOr
deriving DecidableEq, Repr

/-- A restriction that a caller puts on queries. -/
structure Scope where
  pathUsage : PathUsage := .none
  basePath : Option String := .none
  rawQuery : Option String := .none
  skip : Option UInt32 := .none
  top : Option UInt32 := .none
  autofilters : Option AutofilterMode := .none
deriving DecidableEq, Repr

namespace Scope

/-- Results have to lie in a folder. -/
def inFolderAnd (path : String) : Scope :=
  { pathUsage := .inFolderAnd, basePath := some path }

/-- Results may also be anything in a folder. -/
def inFolderOr (path : String) : Scope :=
  { pathUsage := .inFolderOr, basePath := some path }

/-- The scope with a raw query. -/
def withRawQuery (scope : Scope) (raw : String) : Scope :=
  { scope with rawQuery := some raw }

/-- The scope with a number of results to skip. -/
def withSkip (scope : Scope) (count : UInt32) : Scope :=
  { scope with skip := some count }

/-- The scope with a number of results to return at most. -/
def withTop (scope : Scope) (count : UInt32) : Scope :=
  { scope with top := some count }

/-- The scope with a mode for the engine's own filters. -/
def withAutofilters (scope : Scope) (mode : AutofilterMode) : Scope :=
  { scope with autofilters := some mode }

/-- A scope that changes neither the predicate nor the directives of a query. -/
def isEmpty (scope : Scope) : Bool :=
  scope.pathUsage = .none && scope.rawQuery.isNone && scope.skip.isNone && scope.top.isNone &&
    scope.autofilters.isNone

end Scope

end ContentQuery
