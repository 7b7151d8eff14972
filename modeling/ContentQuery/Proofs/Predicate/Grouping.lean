import ContentQuery.Proofs.Clause.Canonical
import ContentQuery.Proofs.Predicate.Shape

/-!
# Groupings of operands

Operands of a connective can be grouped in many ways. The predicates of two groupings are not the
same, but they reduce alike: joining predicates is associative as far as normalization can see,
because a group inside a group of the same kind is spliced in its place. So each grouping is
compared with the operands joined one after the other, by induction on the grouping.
-/

namespace ContentQuery

/-! ### Spliced groups -/

namespace Clause

variable {connective : Connective} {members : List Clause}

theorem splice_collapse (flat : ∀ member ∈ members, member.isGroupOf connective = false) :
    connective.splice (collapse connective.group members) = members := by
  match members with
  | [] => exact splice_none connective
  | [member] => exact splice_some_of_isGroupOf_eq_false (flat member (by simp))
  | first :: second :: rest => exact splice_group connective _

/-- What a group adds to a group of the same kind is what its members would add. -/
theorem splice_reduce_group (connective : Connective) (members : List Clause) :
    connective.splice (connective.group members).reduce =
      members.flatMap fun member => connective.splice member.reduce := by
  rw [reduce_group]
  apply splice_collapse
  intro part partMem
  rcases List.mem_flatMap.mp partMem with ⟨member, _, spliced⟩
  cases reduces : member.reduce with
  | none => simp [reduces] at spliced
  | some reduced =>
      rw [reduces] at spliced
      exact (isReduced_of_mem_splice (isReduced_of_reduce reduces) spliced).2

end Clause

namespace Predicate

/-! ### Predicates that reduce alike -/

/-- What normalization sees of a predicate. -/
def reduced : Predicate → Bool ⊕ Option Clause
  | constant value => .inl value
  | clause inner => .inr inner.reduce

/-- What normalization sees of two predicates joined, from what it sees of each. -/
def joinReduced (connective : Connective) :
    Bool ⊕ Option Clause → Bool ⊕ Option Clause → Bool ⊕ Option Clause
  | .inl value, other | other, .inl value =>
    if value = connective.neutral then other else .inl value
  | .inr left, .inr right =>
    .inr (Clause.collapse connective.group
      ((connective.inOrder [left, right]).flatMap connective.splice))

theorem reduced_join (connective : Connective) (first second : Predicate) :
    (join connective first second).reduced =
      joinReduced connective first.reduced second.reduced := by
  cases first with
  | constant value =>
      rw [join_constant_left, apply_ite reduced]
      rfl
  | clause left =>
      cases second with
      | constant value =>
          rw [join_constant_right, apply_ite reduced]
          rfl
      | clause right =>
          rw [join_clause, reduced, Clause.reduce_group]
          cases connective <;> rfl

/-- Joining is associative as far as normalization can see. -/
theorem reduced_join_assoc (connective : Connective) (first second third : Predicate) :
    (join connective (join connective first second) third).reduced =
      (join connective first (join connective second third)).reduced := by
  match first, second, third with
  | constant value, _, _ =>
      by_cases neutral : value = connective.neutral <;> simp [join_constant_left, neutral]
  | clause left, constant value, _ =>
      by_cases neutral : value = connective.neutral <;>
        simp [join_constant_left, join_constant_right, neutral]
  | clause left, clause middle, constant value =>
      by_cases neutral : value = connective.neutral <;> simp [join_constant_right, neutral]
  | clause left, clause middle, clause right =>
      simp only [join_clause, reduced, Clause.reduce_group]
      cases connective <;> simp [Connective.inOrder, Clause.splice_reduce_group]

/-- Predicates joined one after the other. -/
def joinAll (connective : Connective) (predicates : List Predicate) : Predicate :=
  predicates.foldr (join connective) (constant connective.neutral)

theorem reduced_joinAll_append (connective : Connective) (front back : List Predicate) :
    (joinAll connective (front ++ back)).reduced =
      (join connective (joinAll connective front) (joinAll connective back)).reduced := by
  induction front with
  | nil => simp [joinAll, join_constant_left]
  | cons first front ih =>
      calc (join connective first (joinAll connective (front ++ back))).reduced
          = (join connective first
              (join connective (joinAll connective front) (joinAll connective back))).reduced :=
            by rw [reduced_join, ih, ← reduced_join]
        _ = (join connective (joinAll connective (first :: front))
              (joinAll connective back)).reduced :=
            (reduced_join_assoc connective _ _ _).symm

end Predicate

/-! ### Groupings -/

namespace Connective

/-- The operator that stands for a connective. -/
def operator : Connective → BinaryOp
  | and => .and
  | or => .or

end Connective

/-- A way to put parentheses around operands. -/
inductive Grouping where
  | operand (expr : Expr)
  | pair (left right : Grouping)

namespace Grouping

/-- The operands from left to right. -/
def operands : Grouping → List Expr
  | operand expr => [expr]
  | pair left right => left.operands ++ right.operands

/-- The grouped operands, with a connective between them. -/
def expr (connective : Connective) : Grouping → Expr
  | operand expr => expr
  | pair left right =>
    .binary connective.operator (left.expr connective) (right.expr connective)

end Grouping

namespace Predicate

variable {context : Context}

theorem ofExpr_eq_ofConstant {expr : Expr} (isConstant : expr.isConstant = true) :
    ofExpr context expr = ofConstant context expr := by
  rw [ofExpr.eq_def, if_pos isConstant]

/-- The connectives of constants that are evaluated together are those of the constants evaluated
one by one. -/
theorem evaluate_binary_operator {present : Timestamp} {left right : Expr} {one other : Bool}
    (connective : Connective) (leftEvaluates : left.evaluate present = .ok (.bool one))
    (rightEvaluates : right.evaluate present = .ok (.bool other)) :
    (Expr.binary connective.operator left right).evaluate present =
      .ok (.bool (connective.join one other)) := by
  cases connective <;> cases one <;>
    simp only [Connective.operator, Expr.evaluate, leftEvaluates, rightEvaluates] <;> rfl

/-- Operands that stand for predicates can be joined, whether they are constant or not. -/
theorem ofExpr_binary_operator {left right : Expr} {first second : Predicate}
    (connective : Connective) (leftCompiled : ofExpr context left = .ok first)
    (rightCompiled : ofExpr context right = .ok second) :
    ofExpr context (.binary connective.operator left right) =
      .ok (join connective first second) := by
  cases areConstant : left.isConstant && right.isConstant with
  | true =>
      have isConstant : (Expr.binary connective.operator left right).isConstant = true :=
        areConstant
      rw [ofExpr_eq_ofConstant isConstant]
      rw [Bool.and_eq_true] at areConstant
      rw [ofExpr_eq_ofConstant areConstant.1] at leftCompiled
      rw [ofExpr_eq_ofConstant areConstant.2] at rightCompiled
      rcases ofConstant_eq_ok.mp leftCompiled with ⟨one, leftEvaluates, rfl⟩
      rcases ofConstant_eq_ok.mp rightCompiled with ⟨other, rightEvaluates, rfl⟩
      refine ofConstant_eq_ok.mpr
        ⟨_, evaluate_binary_operator connective leftEvaluates rightEvaluates, ?_⟩
      cases connective <;> cases one <;> cases other <;> rfl
  | false =>
      have notConstant : ¬ (Expr.binary connective.operator left right).isConstant = true := by
        simp [Expr.isConstant, areConstant]
      rw [ofExpr.eq_def, if_neg notConstant]
      cases connective <;> simp only [Connective.operator, leftCompiled, rightCompiled] <;> rfl

variable {predicates : List Predicate}

theorem mapM_ofExpr_append {front back : List Expr}
    (compiled : (front ++ back).mapM (ofExpr context) = .ok predicates) :
    ∃ first second, front.mapM (ofExpr context) = .ok first ∧
      back.mapM (ofExpr context) = .ok second ∧ predicates = first ++ second := by
  rw [List.mapM_append] at compiled
  rcases bind_eq_ok.mp compiled with ⟨first, frontCompiled, compiled⟩
  rcases bind_eq_ok.mp compiled with ⟨second, backCompiled, same⟩
  cases same
  exact ⟨first, second, frontCompiled, backCompiled, rfl⟩

theorem mapM_ofExpr_singleton {expr : Expr}
    (compiled : [expr].mapM (ofExpr context) = .ok predicates) :
    ∃ predicate, ofExpr context expr = .ok predicate ∧ predicates = [predicate] := by
  rw [List.mapM_cons] at compiled
  rcases bind_eq_ok.mp compiled with ⟨predicate, exprCompiled, compiled⟩
  cases compiled
  exact ⟨predicate, exprCompiled, rfl⟩

/-- If all operands stand for predicates, then so does every grouping of them, and it reduces like
the operands joined one after the other. -/
theorem exists_ofExpr_grouping (connective : Connective) (grouping : Grouping)
    (compiled : grouping.operands.mapM (ofExpr context) = .ok predicates) :
    ∃ predicate, ofExpr context (grouping.expr connective) = .ok predicate ∧
      predicate.reduced = (joinAll connective predicates).reduced := by
  induction grouping generalizing predicates with
  | operand expr =>
      rcases mapM_ofExpr_singleton compiled with ⟨predicate, exprCompiled, rfl⟩
      refine ⟨predicate, exprCompiled, ?_⟩
      rw [joinAll, List.foldr_cons, List.foldr_nil, join_constant_right, if_pos rfl]
  | pair left right ihLeft ihRight =>
      rcases mapM_ofExpr_append compiled with ⟨lefts, rights, leftsCompiled, rightsCompiled, rfl⟩
      rcases ihLeft leftsCompiled with ⟨first, leftCompiled, leftReduces⟩
      rcases ihRight rightsCompiled with ⟨second, rightCompiled, rightReduces⟩
      refine ⟨_, ofExpr_binary_operator connective leftCompiled rightCompiled, ?_⟩
      rw [reduced_joinAll_append, reduced_join, leftReduces, rightReduces, ← reduced_join]

/-- If no operand stands for a truth value, then no grouping does, and the terms of a grouping are
those of the operands in the order of the connective. -/
theorem exists_clause_of_grouping (connective : Connective) (grouping : Grouping)
    {clauses : List Clause}
    (compiled : grouping.operands.mapM (ofExpr context) = .ok (clauses.map clause)) :
    ∃ inner, ofExpr context (grouping.expr connective) = .ok (clause inner) ∧
      inner.terms = (connective.inOrder clauses).flatMap Clause.terms := by
  induction grouping generalizing clauses with
  | operand expr =>
      rcases mapM_ofExpr_singleton compiled with ⟨predicate, exprCompiled, single⟩
      rcases List.map_eq_singleton_iff.mp single with ⟨inner, rfl, rfl⟩
      refine ⟨inner, exprCompiled, ?_⟩
      cases connective <;> simp [Connective.inOrder]
  | pair left right ihLeft ihRight =>
      rcases mapM_ofExpr_append compiled with ⟨_, _, leftsCompiled, rightsCompiled, joined⟩
      rcases List.map_eq_append_iff.mp joined with ⟨lefts, rights, rfl, rfl, rfl⟩
      rcases ihLeft leftsCompiled with ⟨first, leftCompiled, leftTerms⟩
      rcases ihRight rightsCompiled with ⟨second, rightCompiled, rightTerms⟩
      have pairCompiled := ofExpr_binary_operator connective leftCompiled rightCompiled
      rw [join_clause] at pairCompiled
      refine ⟨_, pairCompiled, ?_⟩
      rw [Clause.terms_group]
      cases connective <;> simp_all [Connective.inOrder]

end Predicate

end ContentQuery
