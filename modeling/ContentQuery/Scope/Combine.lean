import ContentQuery.CompileError
import ContentQuery.Scope.Basic
import ContentQuery.Text.Quoted
import ContentQuery.Text.Case

/-!
# Queries in a scope

The raw query of a scope joins the conjunction at the top of the predicate; the folder is then put
beside the result, which stays one member of the new group.
-/

namespace ContentQuery

namespace CompileError

/-- A raw query without a clause. -/
def blankRawQuery : CompileError :=
  .invalidScope "raw query is empty"

/-- A scope that uses a path but has none. -/
def missingBasePath : CompileError :=
  .invalidScope "path usage set without a base path"

end CompileError

namespace Scope

/-- The raw query as a term. -/
def rawTerm? (scope : Scope) : Except CompileError (Option Term) :=
  match scope.rawQuery with
  | none => .ok none
  | some raw =>
    if Text.isBlankText raw then .error .blankRawQuery else .ok (some (.raw (Text.trim raw)))

/-- The folder as a term, if the scope uses one. -/
def pathTerm? (scope : Scope) : Except CompileError (Option Term) :=
  match scope.pathUsage, scope.basePath with
  | .none, _ => .ok none
  | _, none => .error .missingBasePath
  | _, some path =>
    if Text.isBlankText path then .error .missingBasePath
    else .ok (some (.scope .inFolder (Text.lower (Text.trim path))))

/-- Adds a raw query to the conjunction at the top of a predicate. -/
def addRaw (raw : Term) : Option Clause → Clause
  | none => raw
  | some (.and members) => .and (members ++ [.term raw])
  | some predicate => .and [predicate, raw]

/-- Puts a folder beside a predicate. -/
def addPath (usage : PathUsage) (path : Term) : Option Clause → Clause
  | none => path
  | some predicate =>
    if usage = .inFolderOr then .or [predicate, path] else .and [predicate, path]

/-- The query restricted by a scope. -/
def combine (scope : Scope) (query : CompiledQuery) : Except CompileError CompiledQuery := do
  let raw ← scope.rawTerm?
  let path ← scope.pathTerm?
  let withRaw := raw.elim query.predicate fun raw => some (addRaw raw query.predicate)
  let withPath := path.elim withRaw fun path => some (addPath scope.pathUsage path withRaw)
  return { query with
    predicate := withPath
    page :=
      { skip := scope.skip.or query.page.skip
        top := scope.top.or query.page.top }
    flags :=
      { query.flags with autofilters := scope.autofilters.getD query.flags.autofilters } }

end Scope

end ContentQuery
