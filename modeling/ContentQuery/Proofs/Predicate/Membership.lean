import ContentQuery.Proofs.Predicate.Comparison
import ContentQuery.Proofs.Predicate.Shape
import ContentQuery.Term.Text

/-!
# Membership in a field

A test whether a multi-valued field contains a value is compiled by another rule than a test whether
it equals the value, and of a truth value the two make terms of different kinds. In query text there
is no difference.
-/

namespace ContentQuery

/-- The term looks for a part of a text. -/
def Term.isPattern : Term → Bool
  | wildcard _ _ _ => true
  | _ => false

namespace Context

variable {context : Context} {name : String} {info : FieldInfo} {value : Literal}

theorem isPattern_of_equalityTerm {leaf : Term}
    (compiled : context.equalityTerm name info value = .ok leaf) : leaf.isPattern = false := by
  rcases equalityTerm_eq_ok compiled with ⟨target, rfl⟩ | ⟨written, _, rfl⟩ <;> rfl

theorem exists_term_of_equality {clause : Clause}
    (compiled : context.equality name info false value = .ok clause) :
    ∃ leaf : Term, clause = leaf ∧ leaf.isPattern = false := by
  rcases equality_eq_ok compiled with ⟨holds, rfl⟩ | rfl | ⟨leaf, leafCompiled, rfl⟩
  · exact ⟨_, rfl, rfl⟩
  · exact ⟨_, rfl, rfl⟩
  · exact ⟨leaf, rfl, isPattern_of_equalityTerm leafCompiled⟩

theorem text_eq_of_equality {member equal : Term}
    (memberCompiled : context.equalityTerm name info value = .ok member)
    (equalCompiled : context.equality name info false value = .ok equal) :
    member.text = equal.text := by
  have sameTerm (same : context.equality name info false value =
      (do return signed false (← context.equalityTerm name info value))) :
      member.text = equal.text := by
    rw [equalCompiled, memberCompiled] at same
    cases same
    rfl
  simp only [equality, equalityTerm] at memberCompiled equalCompiled sameTerm
  cases type : info.type with
  | bool =>
      rw [type] at memberCompiled equalCompiled
      cases value with
      | bool holds =>
          cases memberCompiled
          cases equalCompiled
          simp [Term.text, Literal.render]
      | null =>
          cases memberCompiled
          cases equalCompiled
          rfl
      | _ => cases equalCompiled
  | reference =>
      rw [type] at memberCompiled sameTerm
      cases value with
      | null => cases memberCompiled
      | _ => exact sameTerm rfl
  | _ =>
      rw [type] at sameTerm
      exact sameTerm rfl

/-- A test for a member of a multi-valued field is a comparison with that field, whatever the
member. -/
theorem ofExpr_contains (known : context.catalog.resolve? name = some info)
    (multivalued : info.multivalued = true) {argument : Expr}
    (isConstant : argument.isConstant = true) :
    Predicate.ofExpr context (.call .contains (.field name) [argument]) =
      argument.evaluate context.time >>= fun value =>
        (fun leaf => Predicate.clause (.term leaf)) <$> context.equalityTerm name info value := by
  have notConstant : (Expr.call .contains (.field name) [argument]).isConstant ≠ true := by
    simp [Expr.isConstant]
  have resolves (inferred : FieldType) : context.resolve name inferred = .ok info := by
    simp [resolve, known]
  rw [Predicate.ofExpr.eq_def, if_neg notConstant]
  change context.textMatch .contains .contains (.field name) argument = _
  simp only [textMatch, constantArgument, if_pos isConstant]
  apply congrArg (argument.evaluate context.time >>= ·)
  funext value
  rw [resolves]
  change (if (true && info.multivalued) = true then _ else _) = _
  rw [if_pos (by simp [multivalued])]
  rfl

theorem ofExpr_equals (known : context.catalog.resolve? name = some info)
    {argument : Expr} (isConstant : argument.isConstant = true) :
    Predicate.ofExpr context (.binary .eq (.field name) argument) =
      argument.evaluate context.time >>= fun value =>
        Predicate.clause <$> context.equality name info false value := by
  have resolves (inferred : FieldType) : context.resolve name inferred = .ok info := by
    simp [resolve, known]
  have operands : FieldComparison.Operands name argument (.field name) argument := .fieldFirst
  rw [Predicate.ofExpr_comparison rfl (operands.isConstant_binary .eq),
    comparison_equality isConstant operands]
  simp only [map_bind, resolves]
  rfl

end Context

namespace Predicate

/-- On a multi-valued field a test for a member and a test for an equal value each give a single
term that is no pattern, and if neither is refused, both are written alike. -/
theorem text_contains_eq_text_equals (context : Context) {name : String} {info : FieldInfo}
    (known : context.catalog.resolve? name = some info) (multivalued : info.multivalued = true)
    {argument : Expr} (isConstant : argument.isConstant = true) :
    let contains := ofExpr context (.call .contains (.field name) [argument])
    let equals := ofExpr context (.binary .eq (.field name) argument)
    (∀ predicate, contains = .ok predicate ∨ equals = .ok predicate →
        ∃ leaf : Term, predicate = clause leaf ∧ leaf.isPattern = false) ∧
      ∀ member equal : Term, contains = .ok (clause member) → equals = .ok (clause equal) →
        member.text = equal.text := by
  intro contains equals
  have membership (predicate : Predicate) (compiled : contains = .ok predicate) :
      ∃ value leaf, argument.evaluate context.time = .ok value ∧
        context.equalityTerm name info value = .ok leaf ∧ predicate = clause leaf := by
    rcases bind_eq_ok.mp
        ((Context.ofExpr_contains known multivalued isConstant).symm.trans compiled)
      with ⟨value, evaluates, mapped⟩
    rcases map_eq_ok.mp mapped with ⟨leaf, leafCompiled, rfl⟩
    exact ⟨value, leaf, evaluates, leafCompiled, rfl⟩
  have equality (predicate : Predicate) (compiled : equals = .ok predicate) :
      ∃ value inner, argument.evaluate context.time = .ok value ∧
        context.equality name info false value = .ok inner ∧ predicate = clause inner := by
    rcases bind_eq_ok.mp ((Context.ofExpr_equals known isConstant).symm.trans compiled)
      with ⟨value, evaluates, mapped⟩
    rcases map_eq_ok.mp mapped with ⟨inner, innerCompiled, rfl⟩
    exact ⟨value, inner, evaluates, innerCompiled, rfl⟩
  refine ⟨?_, ?_⟩
  · rintro predicate (compiled | compiled)
    · rcases membership predicate compiled with ⟨_, leaf, _, leafCompiled, rfl⟩
      exact ⟨leaf, rfl, Context.isPattern_of_equalityTerm leafCompiled⟩
    · rcases equality predicate compiled with ⟨_, inner, _, innerCompiled, rfl⟩
      rcases Context.exists_term_of_equality innerCompiled with ⟨leaf, rfl, notPattern⟩
      exact ⟨leaf, rfl, notPattern⟩
  · intro member equal memberCompiled equalCompiled
    rcases membership _ memberCompiled with ⟨value, _, evaluates, leafCompiled, ⟨⟩⟩
    rcases equality _ equalCompiled with ⟨other, _, otherEvaluates, innerCompiled, ⟨⟩⟩
    obtain rfl : value = other := Except.ok.inj (evaluates.symm.trans otherEvaluates)
    exact Context.text_eq_of_equality leafCompiled innerCompiled

/-- A truth value that a field contains and one that it equals are terms of two kinds, written
alike. The empty text is a member like any other. -/
theorem text_contains_eq_text_equals_truthValue :
    let flags : FieldInfo := { indexedName := "Flags", type := .bool, multivalued := true }
    let tags : FieldInfo := { indexedName := "Tags", type := .text, multivalued := true }
    let context : Context :=
      ⟨(FieldCatalog.empty.insert "Flags" flags).insert "Tags" tags, .empty, {}, .epoch⟩
    let always : Expr := .constant (.bool true)
    let nothing : Expr := .constant (.text "")
    ofExpr context (.call .contains (.field "Flags") [always]) =
        .ok (clause (Term.equality "Flags" (.bool true))) ∧
      ofExpr context (.binary .eq (.field "Flags") always) =
        .ok (clause (Term.boolean "Flags" true)) ∧
      (Term.equality "Flags" (.bool true)).text = (Term.boolean "Flags" true).text ∧
      ∃ leaf : Term,
        ofExpr context (.call .contains (.field "Tags") [nothing]) = .ok (clause leaf) ∧
        leaf.isPattern = false := by
  intro flags tags context always nothing
  have knowsFlags : context.catalog.resolve? "Flags" = some flags := by
    simp [context, FieldCatalog.resolve?_insert]
  have knowsTags : context.catalog.resolve? "Tags" = some tags := by
    simp [context, FieldCatalog.resolve?_insert]
  have contains : ofExpr context (.call .contains (.field "Flags") [always]) =
      .ok (clause (Term.equality "Flags" (.bool true))) :=
    Context.ofExpr_contains knowsFlags rfl rfl
  have equals : ofExpr context (.binary .eq (.field "Flags") always) =
      .ok (clause (Term.boolean "Flags" true)) := Context.ofExpr_equals knowsFlags rfl
  have member : ofExpr context (.call .contains (.field "Tags") [nothing]) =
      .ok (clause (Term.equality "Tags" (.text ""))) := Context.ofExpr_contains knowsTags rfl rfl
  refine ⟨contains, equals, ?_, ?_⟩
  · exact (text_contains_eq_text_equals context knowsFlags rfl rfl).2 _ _ contains equals
  · rcases (text_contains_eq_text_equals context knowsTags rfl rfl).1 _ (.inl member)
      with ⟨leaf, same, notPattern⟩
    exact ⟨leaf, member.trans (congrArg Except.ok same), notPattern⟩

end Predicate

end ContentQuery
