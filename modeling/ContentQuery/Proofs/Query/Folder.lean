import ContentQuery.Proofs.Query.Failure
import ContentQuery.Proofs.Query.Grouping
import ContentQuery.Proofs.Scope.Embedding
import ContentQuery.Proofs.Text.Case
import ContentQuery.Proofs.Text.Quoted

/-!
# Queries in a folder

There are two ways to ask for the items in a folder: a filter that names the folder, and a scope
that does. The filter takes the path as it is given, but the scope trims it.

The main statement is that the two ways agree on the paths that have no blanks at their ends, and on
no others.
-/

namespace ContentQuery

/-- The candidate lies in a folder. -/
def Expr.inFolder (path : String) : Expr :=
  .call .inFolder .candidate [.constant (.text path)]

namespace Query

variable {context : Context} {query : Query} {path : String}

/-- The text of a query whose predicate is a folder. -/
def textInFolder (query : Query) (path : String) (sort : List SortKey) : CompiledText :=
  ⟨CompiledQuery.text
      { predicate := some (Term.scope .inFolder path)
        sort
        page := query.page
        flags := query.flags },
    query.flags.executionMode⟩

theorem ofExpr_inFolder (context : Context) (notBlank : Text.isBlankText path = false) :
    Predicate.ofExpr context (.inFolder path) =
      .ok (.clause (Term.scope .inFolder (Text.lower path))) := by
  have places : context.place .inFolder .inFolder .candidate (.constant (.text path)) =
      .ok (Term.scope .inFolder (Text.lower path)) := by
    change (if Text.isBlankText path then _ else _) = _
    rw [notBlank]
    rfl
  have called : Predicate.ofExpr context (.inFolder path) =
      Predicate.clause <$>
        context.place .inFolder .inFolder .candidate (.constant (.text path)) := by
    rw [Expr.inFolder, Predicate.ofExpr, if_neg (by simp [Expr.isConstant])]
    rfl
  rw [called, places]
  rfl

/-- A query whose predicate has a normal form is compiled as soon as its sort order is. -/
theorem lower_eq_map {predicate : Predicate} {normalized : Option Clause.Normalized}
    (given : query.toPredicate context = .ok predicate)
    (normal : normalForm context.options.guardField predicate = .ok normalized) :
    query.lower context =
      (fun sort =>
        { query :=
            { predicate := normalized.map (·.clause)
              sort
              page := query.page
              flags := query.flags }
          guarded := normalized.any (·.guarded) }) <$> query.indexedSort context := by
  rw [lower, given]
  change normalForm _ _ >>= _ = _
  rw [normal]
  cases query.indexedSort context <;> rfl

/-- A filter by a folder gives the path in lower case. -/
theorem compile_filter_inFolder (context : Context) (unfiltered : query.predicate = none)
    (notBlank : Text.isBlankText path = false) :
    (query.filter (.inFolder path)).compile context {} =
      query.textInFolder (Text.lower path) <$> query.indexedSort context := by
  have given := (toPredicate_filter unfiltered _).trans (ofExpr_inFolder context notBlank)
  have sameSort : (query.filter (.inFolder path)).indexedSort context = query.indexedSort context :=
    rfl
  rw [compile_eq_bind, compileQuery, lower_eq_map given rfl, sameSort]
  cases query.indexedSort context <;> rfl

/-- A scope with a folder gives the trimmed path in lower case. -/
theorem compile_inFolderAnd (context : Context) (unfiltered : query.predicate = none)
    (notBlank : Text.isBlankText path = false) :
    query.compile context (.inFolderAnd path) =
      query.textInFolder (Text.lower (Text.trim path)) <$> query.indexedSort context := by
  have given : query.toPredicate context = .ok (.constant true) := by
    rw [toPredicate, unfiltered]
  have places : (Scope.inFolderAnd path).pathTerm? = .ok (some (Scope.folderTerm path)) := by
    change (if Text.isBlankText path then _ else _) = _
    rw [notBlank]
    rfl
  rw [compile_eq_bind, compileQuery, lower_eq_map given rfl]
  cases query.indexedSort context with
  | error stop => rfl
  | ok sort =>
      change (Scope.combine _ _).mapError _ >>= _ = _
      rw [Scope.combine, places]
      rfl

theorem text_textInFolder_eq_iff (query : Query) (sort : List SortKey) {place place' : String} :
    (query.textInFolder place sort).text = (query.textInFolder place' sort).text ↔
      Text.lower place = Text.lower place' :=
  calc (query.textInFolder place sort).text = (query.textInFolder place' sort).text
      ↔ (Term.scope .inFolder place).text = (Term.scope .inFolder place').text :=
        Scope.text_predicate_eq_iff { sort, page := query.page, flags := query.flags }
          (.term (.scope .inFolder place)) (.term (.scope .inFolder place'))
    _ ↔ Text.quote (Text.lower place) = Text.quote (Text.lower place') := String.append_right_inj _
    _ ↔ Text.lower place = Text.lower place' :=
        ⟨fun same => Text.quote_injective same, congrArg Text.quote⟩

/-- A filter by a folder and a scope with that folder fail alike, for the sort order of the query.
Otherwise both compile, and to the same text exactly if the path has no blanks at its ends. -/
theorem compile_inFolder_eq_iff (context : Context) {query : Query}
    (unfiltered : query.predicate = none) {path : String}
    (notBlank : Text.isBlankText path = false) :
    (∀ stop, query.indexedSort context = .error stop →
        (query.filter (.inFolder path)).compile context {} = .error stop ∧
          query.compile context (.inFolderAnd path) = .error stop) ∧
      ∀ sort, query.indexedSort context = .ok sort →
        ∃ filtered restricted, (query.filter (.inFolder path)).compile context {} = .ok filtered ∧
          query.compile context (.inFolderAnd path) = .ok restricted ∧
            (filtered.text = restricted.text ↔ Text.trim path = path) := by
  rw [compile_filter_inFolder context unfiltered notBlank,
    compile_inFolderAnd context unfiltered notBlank]
  constructor
  · intro stop fails
    rw [fails]
    exact ⟨rfl, rfl⟩
  · intro sort sorts
    rw [sorts]
    -- the path is lower-cased where the term is made and again where it is written
    exact ⟨_, _, rfl, rfl,
      (text_textInFolder_eq_iff query sort).trans (Text.lower_lower_trim_eq_iff path)⟩

/-- A path with blanks at its ends keeps them in a filter and loses them in a scope. Without them it
is the same in both. -/
theorem compile_inFolder_eq_iff_blanks :
    let context : Context := ⟨.empty, .empty, {}, .epoch⟩
    Text.isBlankText " /Root " = false ∧ Text.isBlankText "/Root" = false ∧
      (∃ filtered restricted,
        (filter {} (.inFolder " /Root ")).compile context {} = .ok filtered ∧
          compile context (.inFolderAnd " /Root ") {} = .ok restricted ∧
            filtered.text ≠ restricted.text ∧ filtered.text = "InFolder:' /root '" ∧
              restricted.text = "InFolder:/root") ∧
      ∃ filtered restricted, (filter {} (.inFolder "/Root")).compile context {} = .ok filtered ∧
        compile context (.inFolderAnd "/Root") {} = .ok restricted ∧
          filtered.text = restricted.text := by
  intro context
  have notBlank : Text.isBlankText " /Root " = false := by decide
  have notBlank' : Text.isBlankText "/Root" = false := by decide
  have unfiltered : ({} : Query).predicate = none := rfl
  refine ⟨notBlank, notBlank', ?_, ?_⟩
  · rcases (compile_inFolder_eq_iff context unfiltered notBlank).2 [] rfl with
      ⟨filtered, restricted, compiles, compilesIn, same⟩
    refine ⟨filtered, restricted, compiles, compilesIn, fun agree => ?_, ?_, ?_⟩
    · exact absurd (same.mp agree) (by decide)
    · cases compiles
      decide
    · cases compilesIn
      decide
  · rcases (compile_inFolder_eq_iff context unfiltered notBlank').2 [] rfl with
      ⟨filtered, restricted, compiles, compilesIn, same⟩
    exact ⟨filtered, restricted, compiles, compilesIn, same.mpr (by decide)⟩

end Query

end ContentQuery
