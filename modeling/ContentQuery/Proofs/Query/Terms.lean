import ContentQuery.Proofs.Predicate.Terms
import ContentQuery.Proofs.Query.Meaning

/-!
# Terms of compiled queries

Normalization adds presence guards to the terms of a predicate and changes the values of boolean
terms, neither of which spoils a term. So every term of a compiled query is a presence guard, or it
is well formed and stands for something that the query names.
-/

namespace ContentQuery

variable {context : Context} {expr : Expr}

theorem Term.affirmed_eq_range {leaf : Term} {field : String} {op : RangeOp} {bound : Literal} :
    leaf.affirmed = .range field op bound ↔ leaf = .range field op bound := by
  cases leaf <;> simp [affirmed]

theorem Clause.isWellFormed_of_normalize {guardField : String} {clause : Clause}
    {normalized : Normalized} (formed : clause.IsWellFormed context expr)
    (normalizes : clause.normalize guardField = some normalized) :
    ∀ leaf ∈ normalized.clause.terms,
      leaf = .range guardField .gt (.int 0) ∨ leaf.IsWellFormed context expr := by
  intro leaf leafMem
  rcases inserted_normalize normalizes with ⟨count, inserted, _⟩
  have affirmedMem : leaf.affirmed ∈ normalized.clause.affirmedTerms := List.mem_map_of_mem leafMem
  rcases inserted.eq_or_mem affirmedMem with guard | kept
  · exact .inl (Term.affirmed_eq_range.mp guard)
  · exact .inr (Term.isWellFormed_affirmed.mp (isWellFormed_iff_affirmedTerms.mp formed _ kept))

namespace Query

variable {query : Query}

/-- Every term of a compiled query is well formed, unless it is a presence guard: it is no raw text,
its literal is neither null nor a float that is no number, its pattern is not empty, its path and
its type name are lower-case forms of names that are not blank or of registered ones, and its field
is indexed for a field that the filter names. -/
theorem isWellFormed_of_compileQuery {compiled : CompiledQuery}
    (compiles : query.compileQuery context = .ok compiled) :
    ∀ clause ∈ compiled.predicate, ∃ expr ∈ query.predicate, ∀ leaf ∈ clause.terms,
      leaf = .range context.options.guardField .gt (.int 0) ∨ leaf.IsWellFormed context expr := by
  intro clause clauseMem
  rcases compileQuery_eq_ok compiles with ⟨predicate, normalized, given, normal, present⟩
  rw [present, Option.mem_def, Option.map_eq_some_iff] at clauseMem
  rcases clauseMem with ⟨form, rfl, rfl⟩
  cases predicate with
  | constant value => cases value <;> cases normal
  | clause inner =>
      have normalizes := Except.ok.inj normal
      cases filtered : query.predicate with
      | none =>
          rw [toPredicate, filtered] at given
          cases given
      | some expr =>
          rw [toPredicate_eq_ofExpr filtered] at given
          exact ⟨expr, rfl,
            Clause.isWellFormed_of_normalize (Predicate.isWellFormed_of_ofExpr given) normalizes⟩

/-- A known field that is not null, or an inferred one that does not start with a text, each beside
a guard. -/
theorem isWellFormed_of_compileQuery_negations :
    let catalog := FieldCatalog.empty.insert "Price" ⟨"price_f", .float, false⟩
    let context : Context := ⟨catalog, .empty, { unknownFields := .infer }, .epoch⟩
    let expr : Expr := .binary .or (.binary .ne (.field "Price") (.constant .null))
      (.not (.call .startsWith (.field "Make") [.constant (.text "Vo")]))
    let clause : Clause :=
      .or [.and [.not (Term.equality "price_f" (.text "")), .presenceGuard "Id"],
        .and [.not (Term.wildcard "Make" "Vo" .startsWith), .presenceGuard "Id"]]
    compileQuery context { predicate := some expr } = .ok { predicate := some clause } ∧
      ∀ leaf ∈ clause.terms,
        leaf = .range "Id" .gt (.int 0) ∨ leaf.IsWellFormed context expr := by
  intro catalog context expr clause
  have compiles :
      compileQuery context { predicate := some expr } = .ok { predicate := some clause } := rfl
  refine ⟨compiles, ?_⟩
  rcases isWellFormed_of_compileQuery compiles clause rfl with ⟨_, given, formed⟩
  cases given
  exact formed

end Query

end ContentQuery
