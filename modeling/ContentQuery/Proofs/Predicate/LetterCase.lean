import ContentQuery.Proofs.Predicate.Literals
import ContentQuery.Proofs.Predicate.Shape

/-!
# Letter case of terms

The option for lower case is looked at in one place, where a literal is put into a term that
compares a field. So a predicate with the option on is the one with the option off, with the texts
that it compares fields with in lower case.
-/

namespace ContentQuery

/-- The literal in lower case, if it is a text. -/
def Literal.inLowerCase : Literal → Literal
  | text value => text (Text.lower value)
  | value => value

/-- The context with the option for lower case on or off. -/
def Context.withLowercaseTerms (context : Context) (lowercaseTerms : Bool) : Context :=
  { context with options := { context.options with lowercaseTerms } }

namespace Context

variable {context : Context}

theorem termLiteral_withLowercaseTerms (field : String) (value : Literal) :
    (context.withLowercaseTerms true).termLiteral field value =
      Literal.inLowerCase <$> (context.withLowercaseTerms false).termLiteral field value := by
  cases value with
  | float value =>
      simp only [termLiteral]
      split <;> rfl
  | _ => rfl

theorem equalityTerm_withLowercaseTerms (field : String) (info : FieldInfo) (value : Literal) :
    (context.withLowercaseTerms true).equalityTerm field info value =
      Term.mapLiteral Literal.inLowerCase <$>
        (context.withLowercaseTerms false).equalityTerm field info value := by
  simp only [equalityTerm, termLiteral_withLowercaseTerms]
  split
  · cases value.nodeId field <;> rfl
  · cases (context.withLowercaseTerms false).termLiteral field value <;> rfl

theorem equality_withLowercaseTerms (field : String) (info : FieldInfo) (negated : Bool)
    (value : Literal) :
    (context.withLowercaseTerms true).equality field info negated value =
      Clause.mapLiterals Literal.inLowerCase <$>
        (context.withLowercaseTerms false).equality field info negated value := by
  have null :=
    @mapLiterals_signed Literal.inLowerCase negated (.equality info.indexedName (.text ""))
  simp only [equality, equalityTerm_withLowercaseTerms]
  split
  · rfl
  · exact congrArg Except.ok null.symm
  · exact congrArg Except.ok null.symm
  · rfl
  · apply map_bind_eq_map
    intro leaf _
    exact congrArg Except.ok (mapLiterals_signed negated leaf).symm

theorem ordering_withLowercaseTerms (field : String) (info : FieldInfo) (op : RangeOp)
    (bound : Literal) :
    (context.withLowercaseTerms true).ordering field info op bound =
      Clause.mapLiterals Literal.inLowerCase <$>
        (context.withLowercaseTerms false).ordering field info op bound := by
  simp only [ordering, termLiteral_withLowercaseTerms]
  split
  · rfl
  · cases (context.withLowercaseTerms false).termLiteral field bound <;> rfl

theorem comparison_withLowercaseTerms (comparison : Comparison) (left right : Expr) :
    (context.withLowercaseTerms true).comparison comparison left right =
      Clause.mapLiterals Literal.inLowerCase <$>
        (context.withLowercaseTerms false).comparison comparison left right := by
  simp only [Context.comparison, map_bind]
  congr 1
  funext operands
  apply congrArg
  funext value
  apply congrArg
  funext info
  cases comparison with
  | equality negated => exact equality_withLowercaseTerms operands.field info negated value
  | ordering op =>
      dsimp only
      split
      · exact ordering_withLowercaseTerms operands.field info _ value
      · rfl

theorem textMatch_withLowercaseTerms (method : Method) (shape : WildcardShape)
    (target argument : Expr) :
    (context.withLowercaseTerms true).textMatch method shape target argument =
      Predicate.mapLiterals Literal.inLowerCase <$>
        (context.withLowercaseTerms false).textMatch method shape target argument := by
  simp only [textMatch, map_bind]
  apply congrArg
  funext value
  cases target with
  | field name =>
      simp only [map_bind]
      apply congrArg
      funext info
      split
      · rw [equalityTerm_withLowercaseTerms]
        cases (context.withLowercaseTerms false).equalityTerm name info value <;> rfl
      · simp only [pattern]
        split
        · rfl
        · split <;> rfl
  | _ => rfl

/-! ### Rules without literals -/

theorem typeFilter_withLowercaseTerms (method : Method) (transitive : Bool)
    (target argument : Expr) :
    (context.withLowercaseTerms true).typeFilter method transitive target argument =
      Clause.mapLiterals Literal.inLowerCase <$>
        (context.withLowercaseTerms false).typeFilter method transitive target argument := by
  symm
  apply map_eq_self
  intro inner filtered
  rcases typeFilter_eq_ok filtered with ⟨_, name, _, rfl⟩
  rfl

theorem place_withLowercaseTerms (method : Method) (kind : ScopeKind) (target argument : Expr) :
    (context.withLowercaseTerms true).place method kind target argument =
      Clause.mapLiterals Literal.inLowerCase <$>
        (context.withLowercaseTerms false).place method kind target argument := by
  symm
  apply map_eq_self
  intro inner placed
  rcases place_eq_ok placed with ⟨_, path, _, rfl⟩
  rfl

theorem handlerTest_withLowercaseTerms (handler : Handler) :
    (context.withLowercaseTerms true).handlerTest handler =
      Clause.mapLiterals Literal.inLowerCase <$>
        (context.withLowercaseTerms false).handlerTest handler := by
  symm
  apply map_eq_self
  intro inner tested
  rcases handlerTest_eq_ok tested with ⟨name, _, rfl⟩
  rfl

theorem call_withLowercaseTerms (method : Method) (target : Expr) (arguments : List Expr) :
    (context.withLowercaseTerms true).call method target arguments =
      Predicate.mapLiterals Literal.inLowerCase <$>
        (context.withLowercaseTerms false).call method target arguments := by
  simp only [call]
  split
  · rfl
  · split
    · apply textMatch_withLowercaseTerms
    · apply textMatch_withLowercaseTerms
    · apply textMatch_withLowercaseTerms
    · exact Predicate.map_clause_mapLiterals (typeFilter_withLowercaseTerms ..)
    · exact Predicate.map_clause_mapLiterals (typeFilter_withLowercaseTerms ..)
    · exact Predicate.map_clause_mapLiterals (place_withLowercaseTerms ..)
    · exact Predicate.map_clause_mapLiterals (place_withLowercaseTerms ..)
    · rfl

end Context

namespace Predicate

variable {context : Context}

theorem ofField_withLowercaseTerms (name : String) :
    ofField (context.withLowercaseTerms true) name =
      mapLiterals Literal.inLowerCase <$> ofField (context.withLowercaseTerms false) name := by
  symm
  apply map_eq_self
  intro predicate compiled
  rcases ofField_eq_ok compiled with ⟨info, _, rfl⟩
  rfl

theorem ofConstant_withLowercaseTerms (expr : Expr) :
    ofConstant (context.withLowercaseTerms true) expr =
      mapLiterals Literal.inLowerCase <$> ofConstant (context.withLowercaseTerms false) expr := by
  symm
  apply map_eq_self
  intro predicate compiled
  rcases ofConstant_eq_ok.mp compiled with ⟨value, _, rfl⟩
  rfl

/-- With the option for lower case an expression has the predicate that it has without, with its
texts in lower case, or it is refused for the same reason. -/
theorem ofExpr_withLowercaseTerms (context : Context) (expr : Expr) :
    ofExpr (context.withLowercaseTerms true) expr =
      mapLiterals Literal.inLowerCase <$> ofExpr (context.withLowercaseTerms false) expr := by
  fun_induction ofExpr (context.withLowercaseTerms false) expr with
  | case1 expr isConstant =>
      rw [ofExpr.eq_def, if_pos isConstant]
      exact ofConstant_withLowercaseTerms expr
  | case2 name =>
      rw [ofExpr.eq_def]
      exact ofField_withLowercaseTerms name
  | case3 operand notConstant ih =>
      rw [ofExpr.eq_def, if_neg notConstant]
      simp only [ih]
      apply map_bind_eq_map
      intro inner _
      exact congrArg Except.ok inner.not_mapLiterals
  | case4 one other notConstant ihOne ihOther =>
      rw [ofExpr.eq_def, if_neg notConstant]
      exact join_mapLiterals and_mapLiterals ihOne fun _ _ => ihOther
  | case5 one other notConstant ihOne ihOther =>
      rw [ofExpr.eq_def, if_neg notConstant]
      exact join_mapLiterals or_mapLiterals ihOne fun _ _ => ihOther
  | case6 op one other notAnd notOr comparison compares notConstant =>
      rw [ofExpr.eq_def, if_neg notConstant]
      simp only [compares]
      exact map_clause_mapLiterals (Context.comparison_withLowercaseTerms comparison one other)
  | case7 op one other notAnd notOr noComparison notConstant =>
      rw [ofExpr.eq_def, if_neg notConstant]
      simp only [noComparison]
      rfl
  | case8 test ifTrue ifFalse testConstant notConstant ihTrue ihFalse =>
      rw [ofExpr.eq_def, if_neg notConstant]
      simp only [if_pos testConstant, map_bind]
      apply congrArg
      funext choice
      cases choice with
      | true => exact ihTrue
      | false => exact ihFalse
  | case9 test ifTrue ifFalse testVaries notConstant ihTest ihTrue ihFalse =>
      rw [ofExpr.eq_def, if_neg notConstant]
      simp only [if_neg testVaries, ihTest, ihTrue, ihFalse]
      apply map_bind_eq_map
      intro testPredicate _
      apply map_bind_eq_map
      intro truePredicate _
      apply map_bind_eq_map
      intro falsePredicate _
      exact congrArg Except.ok (testPredicate.choose_mapLiterals truePredicate falsePredicate)
  | case10 method target arguments notConstant =>
      rw [ofExpr.eq_def, if_neg notConstant]
      exact Context.call_withLowercaseTerms method target arguments
  | case11 handler =>
      rw [ofExpr.eq_def]
      exact map_clause_mapLiterals (Context.handlerTest_withLowercaseTerms handler)
  | case12 | case13 | case14 | case15 | case16 =>
      rename_i notConstant
      rw [ofExpr.eq_def, if_neg notConstant]
      rfl

end Predicate

end ContentQuery
