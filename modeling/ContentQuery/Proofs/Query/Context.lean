import ContentQuery.Proofs.Predicate.Context
import ContentQuery.Proofs.Scope.Meaning
import ContentQuery.Query.Compile

/-!
# Queries in two contexts

A compilation reads of its context what the query names and nothing else. The main statements are
that two contexts which agree on the names in a query compile it alike, down to the error, and that
contexts which infer unknown fields differ from those which reject them only where there is an
unknown field.
-/

namespace ContentQuery

/-- How a compilation can fail, apart from the rules for expressions and from fields that cannot be
resolved. -/
def Stop.IsOfCompilation : Stop CompileError → Prop
  | refused .constantPredicate | refused (.invalidScope _) | panicked => True
  | _ => False

namespace Query

/-- The query names a field, in its predicate or in its sort keys. -/
def NamesField (query : Query) (name : String) : Prop :=
  (∃ expr ∈ query.predicate, .field name ∈ expr.parts) ∨ ∃ key ∈ query.sort, key.field = name

def NamesHandler (query : Query) (handler : Handler) : Prop :=
  ∃ expr ∈ query.predicate, .handlerIs handler ∈ expr.parts

def NamesTime (query : Query) : Prop :=
  ∃ expr ∈ query.predicate, expr.NamesTime

/-- In all that a query names, the second context mends the first. -/
structure MendsFor (mended kept : Stop CompileError → Prop) (first second : Context)
    (query : Query) : Prop where
  guardField : first.options.guardField = second.options.guardField
  predicate : ∀ expr ∈ query.predicate, Context.MendsFor mended kept first second expr
  sort : ∀ key ∈ query.sort,
    Mends mended kept (first.resolve key.field .text) (second.resolve key.field .text)

variable {mended kept : Stop CompileError → Prop} {first second : Context} {query : Query}

theorem mends_toPredicate (mends : MendsFor mended kept first second query) :
    Mends mended kept (query.toPredicate first) (query.toPredicate second) := by
  simp only [toPredicate]
  split
  next expr filtered => exact Predicate.mends_ofExpr (mends.predicate expr filtered)
  next => exact .refl (.ok _)

theorem mends_indexedSort (mends : MendsFor mended kept first second query) :
    Mends mended kept (query.indexedSort first) (query.indexedSort second) := by
  apply Mends.mapM
  intro key keyMem
  apply (mends.sort key keyMem).bind
  intro info
  exact .refl (.ok _)

theorem mends_lower (mends : MendsFor mended kept first second query)
    (keptConstant : kept (.refused .constantPredicate)) :
    Mends mended kept (query.lower first) (query.lower second) := by
  apply (mends_toPredicate mends).bind
  intro predicate
  have normalWithin : FailsWithin kept (normalForm first.options.guardField predicate) := by
    cases predicate with
    | constant value =>
        cases value with
        | true => exact .ok _
        | false => exact .error keptConstant
    | clause inner => exact .ok _
  rw [← mends.guardField]
  apply (Mends.refl normalWithin).bind
  intro normalized
  apply (mends_indexedSort mends).bind
  intro sort
  exact .refl (.ok _)

theorem mends_compileIn (mends : MendsFor mended kept first second query) (scope : Scope)
    (keptOwn : ∀ stop, stop.IsOfCompilation → kept stop) :
    Mends mended kept (query.compileIn first scope) (query.compileIn second scope) := by
  apply (mends_lower mends (keptOwn _ trivial)).bind
  intro lowered
  have scopeWithin : FailsWithin kept ((scope.combine lowered.query).mapError .refused) := by
    refine (scope.failsWithin_combine lowered.query).mapError ?_
    intro error ofScope
    cases error with
    | invalidScope reason => exact keptOwn _ trivial
    | _ => exact ofScope.elim
  apply (Mends.refl scopeWithin).bind
  intro combined
  rw [mends.guardField]
  apply Mends.refl
  split
  · exact .ok _
  · exact .ok _

theorem mends_outcome (mends : MendsFor mended kept first second query) (scope : Scope)
    (keptOwn : ∀ stop, stop.IsOfCompilation → kept stop) :
    Mends mended kept (query.outcome first scope) (query.outcome second scope) := by
  apply (mends_compileIn mends scope keptOwn).bind
  intro compilation
  apply Mends.refl
  split
  · exact .ok _
  · exact .error (keptOwn _ trivial)

/-- If one context mends another in what a query names, then so does the compilation. -/
theorem mends_compile (mends : MendsFor mended kept first second query) (scope : Scope)
    (keptOwn : ∀ stop, stop.IsOfCompilation → kept stop) :
    Mends mended kept (query.compile first scope) (query.compile second scope) := by
  apply (mends_outcome mends scope keptOwn).bind
  intro compilation
  exact .refl (.ok _)

/-! ### A context beside itself -/

theorem mendsFor_self (context : Context) (query : Query) :
    MendsFor (fun _ => False) (· ≠ .refused .constantPredicate) context context query := by
  have resolves (name : String) (inferred : FieldType) :
      Mends (fun _ => False) (· ≠ .refused .constantPredicate) (context.resolve name inferred)
        (context.resolve name inferred) := by
    apply Mends.refl
    simp only [Context.resolve]
    split
    · exact .ok _
    · exact .error (by intro same; cases same)
    · exact .ok _
  refine ⟨rfl, ?_, fun key _ => resolves key.field .text⟩
  intro expr _
  refine ⟨?_, rfl, fun _ => rfl, fun _ _ => rfl, fun name inferred _ => resolves name inferred⟩
  rintro error ofRule rfl
  exact ofRule

/-! ### Contexts that agree -/

/-- The contexts agree on all that the query names. -/
structure AgreeFor (first second : Context) (query : Query) : Prop where
  options : first.options = second.options
  resolve? : ∀ name, query.NamesField name →
    first.catalog.resolve? name = second.catalog.resolve? name
  typeName? : ∀ handler, query.NamesHandler handler →
    first.registry.typeName? handler = second.registry.typeName? handler
  time : query.NamesTime → readClock first.time = readClock second.time

theorem AgreeFor.mendsFor (agree : AgreeFor first second query) :
    MendsFor (fun _ => False) (fun _ => True) first second query := by
  have resolves {name : String} (named : query.NamesField name) (inferred : FieldType) :
      Mends (fun _ => False) (fun _ => True) (first.resolve name inferred)
        (second.resolve name inferred) := by
    have same : first.resolve name inferred = second.resolve name inferred := by
      simp only [Context.resolve, agree.resolve? name named, agree.options]
    rw [same]
    exact .refl fun _ _ => trivial
  refine ⟨by rw [agree.options], ?_, fun key keyMem => resolves (.inr ⟨key, keyMem, rfl⟩) .text⟩
  intro expr filtered
  constructor
  · exact fun _ _ => trivial
  · rw [agree.options]
  · exact fun named => agree.time ⟨expr, filtered, named⟩
  · exact fun handler handlerMem => agree.typeName? handler ⟨expr, filtered, handlerMem⟩
  · exact fun name inferred fieldMem => resolves (.inl ⟨expr, filtered, fieldMem⟩) inferred

theorem AgreeFor.compile_eq (agree : AgreeFor first second query) (scope : Scope) :
    query.compile first scope = query.compile second scope := by
  apply (mends_compile agree.mendsFor scope fun _ _ => trivial).eq_of_forall_not
  exact fun _ => id

/-- A compilation reads only what the query names: contexts that agree on that give the same text or
the same error. So a field that the query does not name may be added, described otherwise or
removed. -/
theorem compile_eq_of_agreeFor (agree : AgreeFor first second query) (scope : Scope) :
    query.compile first scope = query.compile second scope ∧
      ∀ name catalog, ¬ query.NamesField name →
        (∀ other, other ≠ name → catalog.resolve? other = first.catalog.resolve? other) →
        query.compile { first with catalog } scope = query.compile first scope := by
  refine ⟨agree.compile_eq scope, ?_⟩
  intro name catalog unnamed elsewhere
  have agree : AgreeFor { first with catalog } first query := by
    refine ⟨rfl, ?_, fun _ _ => rfl, fun _ => rfl⟩
    intro other named
    apply elsewhere
    rintro rfl
    exact unnamed named
  exact agree.compile_eq scope

/-- A test of a field and of a handler is compiled alike in two contexts of which the second is
later and also knows another field and another handler; nor does it matter what the owner of an item
is. -/
theorem compile_eq_of_agreeFor_elsewhere :
    let query : Query :=
      { predicate := some (.binary .and (.field "Hidden") (.handlerIs ⟨0, "Car"⟩))
        sort := [⟨"Name", .descending⟩] }
    let catalog := (FieldCatalog.empty.add "Hidden" .bool).add "Name" .text
    let registry := TypeRegistry.empty.register ⟨0, "Car"⟩ "Auto"
    let first : Context := ⟨catalog, registry, {}, .epoch⟩
    let second : Context :=
      ⟨catalog.add "Price" .float, registry.register ⟨1, "Task"⟩ "Task", {}, ⟨⟨1, 0⟩, by decide⟩⟩
    AgreeFor first second query ∧ ¬ query.NamesField "Owner" ∧
      query.compile first {} = .ok ⟨"+TypeIs:auto +Hidden:yes .REVERSESORT:Name", .default⟩ ∧
      query.compile first {} = query.compile second {} ∧
      query.compile { first with catalog := catalog.add "Owner" .reference } {} =
        query.compile first {} := by
  intro query catalog registry first second
  have fields (name : String) : query.NamesField name ↔ name = "Hidden" ∨ name = "Name" := by
    simp [NamesField, query, Expr.parts, @eq_comm _ name]
  have agree : AgreeFor first second query := by
    refine ⟨rfl, ?_, ?_, ?_⟩
    · intro name named
      rcases (fields name).mp named with rfl | rfl <;> decide
    · intro handler tested
      have same : handler = ⟨0, "Car"⟩ := by simpa [NamesHandler, query, Expr.parts] using tested
      subst same
      decide
    · intro timed
      simp [NamesTime, Expr.NamesTime, query, Expr.parts] at timed
  have unnamed : ¬ query.NamesField "Owner" := by simp [fields]
  have compiled := compile_eq_of_agreeFor agree {}
  refine ⟨agree, unnamed, by decide, compiled.1, compiled.2 "Owner" _ unnamed ?_⟩
  intro other elsewhere
  rw [FieldCatalog.add, FieldCatalog.resolve?_insert, if_neg elsewhere.symm]

end Query

/-! ### Unknown fields -/

/-- The context with another answer to unknown fields. -/
def Context.withUnknownFields (context : Context) (policy : UnknownFieldPolicy) : Context :=
  { context with options := { context.options with unknownFields := policy } }

namespace Query

/-- The error of a field that the query names and the catalog lacks. -/
def Misses (context : Context) (query : Query) : Stop CompileError → Prop
  | .refused (.unknownField name) => query.NamesField name ∧ context.catalog.resolve? name = none
  | _ => False

theorem mendsFor_infer (context : Context) (query : Query) :
    MendsFor (query.Misses context) (fun stop => ∀ name, stop ≠ .refused (.unknownField name))
      (context.withUnknownFields .reject) (context.withUnknownFields .infer) query := by
  have resolves {name : String} (named : query.NamesField name) (inferred : FieldType) :
      Mends (query.Misses context) (fun stop => ∀ name, stop ≠ .refused (.unknownField name))
        ((context.withUnknownFields .reject).resolve name inferred)
        ((context.withUnknownFields .infer).resolve name inferred) := by
    simp only [Context.resolve, Context.withUnknownFields]
    cases known : context.catalog.resolve? name with
    | some info => exact .refl (.ok info)
    | none => exact ⟨.inr ⟨.refused (.unknownField name), ⟨named, known⟩, rfl⟩, .ok _⟩
  refine ⟨rfl, ?_, fun key keyMem => resolves (.inr ⟨key, keyMem, rfl⟩) .text⟩
  intro expr filtered
  refine ⟨?_, rfl, fun _ => rfl, fun _ _ => rfl, ?_⟩
  · rintro error ofRule name rfl
    exact ofRule
  · exact fun name inferred fieldMem => resolves (.inl ⟨expr, filtered, fieldMem⟩) inferred

/-- To infer unknown fields extends what there is when they are rejected: any result but an unknown
field stays as it is, an unknown field is one that the query names and the catalog lacks, and no
field is unknown when it is inferred. -/
theorem compile_infer_of_reject (context : Context) (scope : Scope) (query : Query) :
    let rejecting := query.compile (context.withUnknownFields .reject) scope
    let inferring := query.compile (context.withUnknownFields .infer) scope
    ((∀ name, rejecting ≠ refuse (.unknownField name)) → inferring = rejecting) ∧
      (∀ name, rejecting = refuse (.unknownField name) →
        query.NamesField name ∧ context.catalog.resolve? name = none) ∧
      ∀ name, inferring ≠ refuse (.unknownField name) := by
  intro rejecting inferring
  have outcome : Mends (query.Misses context)
      (fun stop => ∀ name, stop ≠ .refused (.unknownField name)) rejecting inferring := by
    apply mends_compile (mendsFor_infer context query) scope
    rintro stop ofCompilation name rfl
    exact ofCompilation
  have known : ∀ name, inferring ≠ refuse (.unknownField name) :=
    fun name fails => outcome.within _ fails name rfl
  refine ⟨?_, ?_, known⟩
  · intro noneUnknown
    rcases outcome.eq_or_mended with same | ⟨stop, misses, fails⟩
    · exact same
    · rcases stop with error | _
      · cases error with
        | unknownField name => exact absurd fails (noneUnknown name)
        | _ => exact misses.elim
      · exact misses.elim
  · intro name fails
    rcases outcome.eq_or_mended with same | ⟨stop, misses, failsToo⟩
    · exact absurd (same.trans fails) (known name)
    · cases fails.symm.trans failsToo
      exact misses

example :
    let context : Context := ⟨.empty, .empty, {}, .epoch⟩
    let query : Query := { predicate := some (.field "A"), sort := [⟨"B", .ascending⟩] }
    query.compile (context.withUnknownFields .reject) {} = refuse (.unknownField "A") ∧
      query.compile (context.withUnknownFields .infer) {} = .ok ⟨"A:yes .SORT:B", .default⟩ := by
  decide

end Query

end ContentQuery
