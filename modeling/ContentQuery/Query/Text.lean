import ContentQuery.Clause.Text
import ContentQuery.Query.Basic

/-!
# Text of a query

The text of a query is its predicate followed by directives, each of which starts with a full stop.
Directives stand in a fixed order, and settings that change nothing are left out.
-/

namespace ContentQuery

/-- The directive for a sort key. -/
def SortKey.text (key : SortKey) : String :=
  match key.direction with
  | .ascending => ".SORT:" ++ key.field
  | .descending => ".REVERSESORT:" ++ key.field

/-- A directive with a number; zero is as good as none. -/
def countDirective (keyword : String) : Option UInt32 → List String
  | some count => if 0 < count then [keyword ++ count.toNat.repr] else []
  | none => []

/-- The directives for a page. -/
def Page.directives (page : Page) : List String :=
  countDirective ".TOP:" page.top ++ countDirective ".SKIP:" page.skip

/-- The directives for flags. -/
def QueryFlags.directives (flags : QueryFlags) : List String :=
  (if flags.autofilters = .disabled then [".AUTOFILTERS:OFF"] else []) ++
    (if flags.lifespan = .enabled then [".LIFESPAN:ON"] else []) ++
    (if flags.executionMode = .quick then [".QUICK"] else [])

namespace CompiledQuery

/-- The parts of the text of a query. -/
def parts (query : CompiledQuery) : List String :=
  (query.predicate.map Clause.text).toList ++ query.sort.map SortKey.text ++
    query.page.directives ++ query.flags.directives

/-- The text of a query. -/
def text (query : CompiledQuery) : String :=
  " ".intercalate query.parts

/-- The literals of a query can be printed. -/
def isPrintable (query : CompiledQuery) : Bool :=
  query.predicate.all Clause.isPrintable

end CompiledQuery

end ContentQuery
