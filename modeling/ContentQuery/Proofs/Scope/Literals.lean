import ContentQuery.Query.Text
import ContentQuery.Proofs.Clause.Literals
import ContentQuery.Proofs.Scope.Meaning

/-!
# Changes of literals in a scope

A scope does not look at the literals of a query, and the terms that it adds have none. So it
commutes with a change of literals, and a query can be printed in a scope just if it can be printed
without.
-/

namespace ContentQuery

/-- The query with another literal in the place of each of its own. -/
def CompiledQuery.mapLiterals (change : Literal → Literal) (query : CompiledQuery) :
    CompiledQuery :=
  { query with predicate := query.predicate.map (Clause.mapLiterals change) }

theorem CompiledQuery.text_mapLiterals {change : Literal → Literal}
    (keepsText : ∀ literal, (change literal).render = literal.render) (query : CompiledQuery) :
    (query.mapLiterals change).text = query.text := by
  have samePredicate : (query.predicate.map (Clause.mapLiterals change)).map Clause.text =
      query.predicate.map Clause.text := by
    rw [Option.map_map]
    congr 1
    funext clause
    exact Clause.text_mapLiterals keepsText clause
  rw [text, text, parts, parts, mapLiterals, samePredicate]

theorem CompiledQuery.isPrintable_mapLiterals {change : Literal → Literal}
    (keepsPrintable : ∀ literal, (change literal).isPrintable = literal.isPrintable)
    (query : CompiledQuery) : (query.mapLiterals change).isPrintable = query.isPrintable := by
  rw [isPrintable, isPrintable, mapLiterals, Option.all_map]
  congr 1
  funext clause
  exact clause.isPrintable_mapLiterals keepsPrintable

namespace Scope

open Clause

variable {scope : Scope} {change : Literal → Literal}

theorem joinRaw_map_mapLiterals {raw : Option Term}
    (unchanged : ∀ leaf ∈ raw, leaf.mapLiteral change = leaf) (predicate : Option Clause) :
    joinRaw raw (predicate.map (mapLiterals change)) =
      (joinRaw raw predicate).map (mapLiterals change) := by
  cases raw with
  | none => rfl
  | some raw =>
      have rawUnchanged := unchanged raw rfl
      change some _ = some _
      congr 1
      cases predicate with
      | none => rw [Option.map_none, addRaw, mapLiterals, rawUnchanged]
      | some clause =>
          have spliced := @splice_map_mapLiterals change .and (some clause)
          rw [Option.map_some] at spliced ⊢
          rw [addRaw_some, addRaw_some, mapLiterals_group, spliced, List.map_append,
            List.map_singleton, mapLiterals, rawUnchanged]

theorem joinPath_map_mapLiterals {usage : PathUsage} {path : Option Term}
    (unchanged : ∀ leaf ∈ path, leaf.mapLiteral change = leaf) (predicate : Option Clause) :
    joinPath usage path (predicate.map (mapLiterals change)) =
      (joinPath usage path predicate).map (mapLiterals change) := by
  cases path with
  | none => rfl
  | some path =>
      have pathUnchanged := unchanged path rfl
      change some _ = some _
      congr 1
      cases predicate with
      | none => rw [Option.map_none, addPath, mapLiterals, pathUnchanged]
      | some clause =>
          rw [Option.map_some, addPath_some, addPath_some, mapLiterals_group, List.map_cons,
            List.map_singleton, mapLiterals, pathUnchanged]

theorem mapLiteral_of_rawTerm? {raw : Option Term} (reads : scope.rawTerm? = .ok raw) :
    ∀ leaf ∈ raw, leaf.mapLiteral change = leaf := by
  rcases rawTerm?_eq_ok.mp reads with ⟨_, rfl⟩
  intro leaf leafMem
  rcases Option.map_eq_some_iff.mp leafMem with ⟨text, _, rfl⟩
  rfl

theorem mapLiteral_of_pathTerm? {path : Option Term} (places : scope.pathTerm? = .ok path) :
    ∀ leaf ∈ path, leaf.mapLiteral change = leaf := by
  intro leaf leafMem
  rcases pathTerm?_eq_ok.mp places with ⟨_, rfl⟩ | ⟨_, folder, _, _, rfl⟩
  · cases leafMem
  · cases leafMem
    rfl

/-- A scope commutes with a change of literals. -/
theorem combine_mapLiterals (scope : Scope) (query : CompiledQuery) :
    scope.combine (query.mapLiterals change) =
      CompiledQuery.mapLiterals change <$> scope.combine query := by
  rw [combine, combine]
  cases reads : scope.rawTerm? with
  | error error => rfl
  | ok raw =>
      cases places : scope.pathTerm? with
      | error error => rfl
      | ok path =>
          have joined :
              joinPath scope.pathUsage path
                  (joinRaw raw (query.predicate.map (mapLiterals change))) =
                (joinPath scope.pathUsage path (joinRaw raw query.predicate)).map
                  (mapLiterals change) := by
            rw [joinRaw_map_mapLiterals (mapLiteral_of_rawTerm? reads),
              joinPath_map_mapLiterals (mapLiteral_of_pathTerm? places)]
          exact congrArg (fun predicate => Except.ok { query with
            predicate
            page := { skip := scope.skip.or query.page.skip, top := scope.top.or query.page.top }
            flags :=
              { query.flags with autofilters := scope.autofilters.getD query.flags.autofilters } })
            joined

/-! ### Printing -/

theorem terms_joinRaw (raw : Option Term) (predicate : Option Clause) :
    (joinRaw raw predicate).elim [] terms = predicate.elim [] terms ++ raw.toList := by
  rcases raw with _ | raw
  · simp [joinRaw]
  rcases predicate with _ | clause
  · rfl
  calc (addRaw raw (some clause)).terms
      = (Connective.and.splice (some clause) ++ [term raw]).flatMap terms := by
        rw [addRaw_some, terms_group]
    _ = clause.terms ++ [raw] := by
        rw [List.flatMap_append, flatMap_terms_splice]
        rfl

theorem terms_joinPath (usage : PathUsage) (path : Option Term) (predicate : Option Clause) :
    (joinPath usage path predicate).elim [] terms = predicate.elim [] terms ++ path.toList := by
  rcases path with _ | path
  · simp [joinPath]
  rcases predicate with _ | clause
  · rfl
  calc (addPath usage path (some clause)).terms
      = [clause, term path].flatMap terms := by rw [addPath_some, terms_group]
    _ = clause.terms ++ [path] := rfl

theorem isPrintable_eq_all (query : CompiledQuery) :
    query.isPrintable = (query.predicate.elim [] terms).all Term.isPrintable := by
  rw [CompiledQuery.isPrintable]
  cases query.predicate <;> rfl

theorem isPrintable_of_combine {query combined : CompiledQuery}
    (combines : scope.combine query = .ok combined) : combined.isPrintable = query.isPrintable := by
  rcases combine_eq_ok.mp combines with ⟨raw, path, reads, places, rfl⟩
  have rawPrints : raw.toList.all Term.isPrintable = true := by
    rw [(rawTerm?_eq_ok.mp reads).2]
    cases scope.rawQuery <;> rfl
  have pathPrints : path.toList.all Term.isPrintable = true := by
    rcases pathTerm?_eq_ok.mp places with ⟨_, rfl⟩ | ⟨_, folder, _, _, rfl⟩ <;> rfl
  simp only [isPrintable_eq_all, terms_joinPath, terms_joinRaw, List.all_append, rawPrints,
    pathPrints, Bool.and_true]

end Scope

end ContentQuery
