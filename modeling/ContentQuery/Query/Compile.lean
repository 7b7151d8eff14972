import ContentQuery.Clause.Normal
import ContentQuery.Predicate.OfExpr
import ContentQuery.Query.Text
import ContentQuery.Scope.Combine

/-!
# Compilation

`Query.lower` turns a query into a compiled query with a predicate in normal form; `Query.compile`
also puts it into a scope and prints it. A query that restricts nothing is printed with the presence
guard as its predicate, because the engine takes no empty query.

The texts of queries are total functions. Printing is not: it panics at a date that has no
representation in UTC, and `Query.outcome` tests for that before there is a text.
-/

namespace ContentQuery

/-- A compiled query, with a note on how it came about. -/
structure Compilation where
  query : CompiledQuery
  /-- A presence guard was added. -/
  guarded : Bool
deriving Repr

namespace Compilation

/-- The number of terms in the predicate. -/
def termCount (compilation : Compilation) : Nat :=
  compilation.query.predicate.elim 0 Clause.termCount

/-- The printed query. -/
def compiledText (compilation : Compilation) : CompiledText :=
  ⟨compilation.query.text, compilation.query.flags.executionMode⟩

end Compilation

namespace Query

/-- The predicate of a query; without a filter it holds of every content item. -/
def toPredicate (context : Context) (query : Query) : Except (Stop CompileError) Predicate :=
  match query.predicate with
  | some expr => Predicate.ofExpr context expr
  | none => .ok (.constant true)

/-- Sort keys with the field names of the index. -/
def indexedSort (context : Context) (query : Query) : Except (Stop CompileError) (List SortKey) :=
  query.sort.mapM fun key => do
    return { key with field := (← context.resolve key.field .text).indexedName }

/-- The normal form of a predicate. One that holds of nothing is refused. -/
def normalForm (guardField : String) :
    Predicate → Except (Stop CompileError) (Option Clause.Normalized)
  | .constant true => .ok none
  | .constant false => refuse .constantPredicate
  | .clause clause => .ok (clause.normalize guardField)

/-- The query with its predicate in normal form. -/
def lower (context : Context) (query : Query) : Except (Stop CompileError) Compilation := do
  let normalized ← normalForm context.options.guardField (← query.toPredicate context)
  let sort ← query.indexedSort context
  return {
    query :=
      { predicate := normalized.map (·.clause)
        sort
        page := query.page
        flags := query.flags }
    guarded := normalized.any (·.guarded) }

/-- The compiled query without a scope. -/
def compileQuery (context : Context) (query : Query) :
    Except (Stop CompileError) CompiledQuery := do
  return (← query.lower context).query

/-- The compiled query in a scope, with the presence guard for want of a predicate. -/
def compileIn (context : Context) (scope : Scope) (query : Query) :
    Except (Stop CompileError) Compilation := do
  let lowered ← query.lower context
  let combined ← (scope.combine lowered.query).mapError .refused
  match combined.predicate with
  | some _ => return { lowered with query := combined }
  | none =>
    return {
      query := { combined with predicate := some (.presenceGuard context.options.guardField) }
      guarded := true }

/-- The compiled query in a scope as far as it can be printed: a date without a representation in
UTC panics. -/
def outcome (context : Context) (scope : Scope) (query : Query) :
    Except (Stop CompileError) Compilation := do
  let compilation ← query.compileIn context scope
  if compilation.query.isPrintable then return compilation else .error .panicked

/-- The text of a query in a scope. -/
def compile (context : Context) (scope : Scope) (query : Query) :
    Except (Stop CompileError) CompiledText := do
  return (← query.outcome context scope).compiledText

end Query

end ContentQuery
