import ContentQuery.Query.Text
import ContentQuery.Proofs.Clause.Outline
import Std.Data.String.ToNat

/-!
# Reading back queries

The text of a query is taken apart into the pieces of its predicate and its directives. The main
statement is that the text determines the outline of the predicate and all directives, whatever the
literals in it are.
-/

namespace ContentQuery

open Text Text.FragmentState

/-! ### Directives -/

/-- A setting that stands behind the predicate. -/
inductive Directive where
  | sort (key : SortKey)
  | top (count : UInt32)
  | skip (count : UInt32)
  | autofiltersOff
  | lifespanOn
  | quick
deriving DecidableEq, Repr

namespace Directive

/-- The text of a directive. -/
def text : Directive → String
  | sort key => key.text
  | top count => ".TOP:" ++ count.toNat.repr
  | skip count => ".SKIP:" ++ count.toNat.repr
  | autofiltersOff => ".AUTOFILTERS:OFF"
  | lifespanOn => ".LIFESPAN:ON"
  | quick => ".QUICK"

/-- The sort key of a directive. -/
def sortKey? : Directive → Option SortKey
  | sort key => some key
  | _ => none

/-- The number of results of a directive. -/
def top? : Directive → Option UInt32
  | top count => some count
  | _ => none

/-- The number of skipped results of a directive. -/
def skip? : Directive → Option UInt32
  | skip count => some count
  | _ => none

theorem sortKeyText_injective {left right : SortKey} (same : left.text = right.text) :
    left = right := by
  rcases left with ⟨field, _ | _⟩ <;> rcases right with ⟨field', _ | _⟩ <;>
    simp_all [SortKey.text, ← String.toList_inj]

/-- The first three characters of a directive. -/
def mark : Directive → List Char
  | sort key => if key.direction = .ascending then ['.', 'S', 'O'] else ['.', 'R', 'E']
  | top _ => ['.', 'T', 'O']
  | skip _ => ['.', 'S', 'K']
  | autofiltersOff => ['.', 'A', 'U']
  | lifespanOn => ['.', 'L', 'I']
  | quick => ['.', 'Q', 'U']

theorem take_text (directive : Directive) : directive.text.toList.take 3 = directive.mark := by
  cases directive with
  | sort key => rcases key with ⟨field, _ | _⟩ <;> simp [text, SortKey.text, mark]
  | _ => simp [text, mark]

theorem text_injective : Function.Injective text := by
  intro left right same
  -- directives of two kinds differ in the first three characters
  have sameMark : left.mark = right.mark := by rw [← take_text, ← take_text, same]
  cases left <;> cases right
  case sort.sort key key' => rw [sortKeyText_injective same]
  case top.top count count' | skip.skip count count' =>
      rw [text, text, String.append_right_inj, Nat.repr_inj, UInt32.toNat_inj] at same
      rw [same]
  case autofiltersOff.autofiltersOff | lifespanOn.lifespanOn | quick.quick => rfl
  all_goals grind [mark]

theorem head?_text (directive : Directive) : directive.text.toList.head? = some '.' := by
  cases directive with
  | sort key => rcases key with ⟨field, _ | _⟩ <;> simp [text, SortKey.text]
  | _ => simp [text]

theorem isSolid_text {directive : Directive}
    (plain : ∀ key ∈ directive.sortKey?, IsPlain key.field) : IsSolid directive.text := by
  have plainText : IsPlain directive.text := by
    cases directive with
    | sort key =>
        have plainField := plain key rfl
        rcases key with ⟨field, _ | _⟩
        · exact IsPlain.append (by decide) plainField
        · exact IsPlain.append (by decide) plainField
    | top count | skip count => exact IsPlain.append (by decide) (isPlain_repr _)
    | autofiltersOff | lifespanOn | quick => decide
  refine ⟨?_, plainText.passesOver⟩
  intro empty
  have opens := directive.head?_text
  rw [empty] at opens
  cases opens

end Directive

namespace Clause

/-- No field that the clause names opens like a directive. -/
def IsUndotted (clause : Clause) : Prop :=
  ∀ leaf ∈ clause.terms, ∀ name ∈ leaf.field?, name.toList.head? ≠ some '.'

instance (clause : Clause) : Decidable clause.IsUndotted :=
  inferInstanceAs (Decidable (∀ leaf ∈ clause.terms, ∀ name ∈ leaf.field?,
    name.toList.head? ≠ some '.'))

theorem head?_memberText_ne_dot {clause : Clause} (legible : clause.IsLegible)
    (undotted : clause.IsUndotted) : clause.memberText.toList.head? ≠ some '.' := by
  cases clause using group_induction with
  | term leaf =>
      rw [isLegible_term] at legible
      rw [memberText_term legible]
      intro dotted
      rcases Term.exists_opening legible.not_raw with
        ⟨char, opens, known | ⟨name, named, opensName⟩⟩
      · rw [Option.mem_unique opens dotted] at known
        revert known
        decide
      · rw [Option.mem_unique opens dotted] at opensName
        exact undotted leaf (by simp [terms]) name named opensName
  | group connective members _ => simp [head?_memberText_group]
  | not inner _ => simp [head?_memberText_not]

/-- No piece of an undotted clause opens like a directive. -/
theorem head?_ne_dot_of_mem_pieces {clause : Clause} (legible : clause.IsLegible)
    (undotted : clause.IsUndotted) {piece : String} (pieceMem : piece ∈ clause.pieces) :
    piece.toList.head? ≠ some '.' := by
  cases clause using group_induction with
  | group connective members _ =>
      rw [pieces_group] at pieceMem
      rcases List.mem_map.mp pieceMem with ⟨member, memberMem, rfl⟩
      have memberUndotted := head?_memberText_ne_dot (isLegible_group.mp legible member memberMem)
        fun leaf leafMem => undotted leaf (by
          rw [terms_group]
          exact List.mem_flatMap.mpr ⟨member, memberMem, leafMem⟩)
      cases negated : member.isNegated <;> cases connective <;>
        simp [Connective.memberText, Connective.sign, Sign.text, negated, memberUndotted]
  | _ =>
      rw [List.mem_singleton.mp pieceMem]
      exact head?_memberText_ne_dot legible undotted

end Clause

namespace CompiledQuery

/-- The directives of a query in their order. -/
def directives (query : CompiledQuery) : List Directive :=
  query.sort.map .sort ++ (query.page.top.filter (0 < ·)).toList.map .top ++
    (query.page.skip.filter (0 < ·)).toList.map .skip ++
    (if query.flags.autofilters = .disabled then [.autofiltersOff] else []) ++
    (if query.flags.lifespan = .enabled then [.lifespanOn] else []) ++
    (if query.flags.executionMode = .quick then [.quick] else [])

theorem countDirective_eq_map (keyword : String) (count : Option UInt32) :
    countDirective keyword count =
      (count.filter (0 < ·)).toList.map fun count => keyword ++ count.toNat.repr := by
  cases count with
  | none => rfl
  | some count =>
      simp only [countDirective, Option.filter]
      split <;> simp_all

theorem parts_eq_append (query : CompiledQuery) :
    query.parts =
      (query.predicate.map Clause.text).toList ++ query.directives.map Directive.text := by
  have single (condition : Prop) [Decidable condition] (directive : Directive) :
      (if condition then [directive] else []).map Directive.text =
        if condition then [directive.text] else [] := by
    split <;> rfl
  simp [parts, directives, Page.directives, QueryFlags.directives, countDirective_eq_map, single,
    Function.comp_def, Directive.text]

/-- A query whose text can be read back. -/
structure IsReadable (query : CompiledQuery) : Prop where
  readable_predicate : ∀ clause ∈ query.predicate, clause.IsReadable
  undotted_predicate : ∀ clause ∈ query.predicate, clause.IsUndotted
  plain_sort : ∀ key ∈ query.sort, IsPlain key.field

/-- The texts that stand side by side in the text of a query. -/
def pieces (query : CompiledQuery) : List String :=
  query.predicate.elim [] Clause.pieces ++ query.directives.map Directive.text

theorem intercalate_cons_intercalate {front : List String} (notNil : front ≠ [])
    (back : List String) :
    " ".intercalate (" ".intercalate front :: back) = " ".intercalate (front ++ back) := by
  by_cases backNil : back = []
  · simp [backNil]
  · rw [String.intercalate_cons_of_ne_nil backNil,
      String.intercalate_append_of_ne_nil notNil backNil]

theorem text_eq_intercalate_pieces {query : CompiledQuery} (readable : query.IsReadable) :
    query.text = " ".intercalate query.pieces := by
  rw [text, parts_eq_append, pieces]
  cases predicate : query.predicate with
  | none => rfl
  | some clause =>
      have readableClause := readable.readable_predicate clause predicate
      have whole := Clause.text_eq_intercalate_pieces readableClause.legible
      simpa [whole] using intercalate_cons_intercalate (Clause.pieces_ne_nil readableClause) _

variable {query left right : CompiledQuery}

/-! ### What directives say -/

theorem filterMap_sortKey?_directives (query : CompiledQuery) :
    query.directives.filterMap Directive.sortKey? = query.sort := by
  simp [directives, List.filterMap_map, Function.comp_def, Directive.sortKey?]

theorem filterMap_top?_directives (query : CompiledQuery) :
    query.directives.filterMap Directive.top? = (query.page.top.filter (0 < ·)).toList := by
  simp [directives, List.filterMap_map, Function.comp_def, Directive.top?]

theorem filterMap_skip?_directives (query : CompiledQuery) :
    query.directives.filterMap Directive.skip? = (query.page.skip.filter (0 < ·)).toList := by
  simp [directives, List.filterMap_map, Function.comp_def, Directive.skip?]

theorem autofiltersOff_mem_directives :
    .autofiltersOff ∈ query.directives ↔ query.flags.autofilters = .disabled := by
  simp [directives]

theorem lifespanOn_mem_directives :
    .lifespanOn ∈ query.directives ↔ query.flags.lifespan = .enabled := by
  simp [directives]

theorem quick_mem_directives :
    .quick ∈ query.directives ↔ query.flags.executionMode = .quick := by
  simp [directives]

/-! ### Pieces -/

theorem isSolid_of_mem_pieces (readable : query.IsReadable) {piece : String}
    (pieceMem : piece ∈ query.pieces) : IsSolid piece := by
  rcases List.mem_append.mp pieceMem with pieceMem | pieceMem
  · cases predicate : query.predicate with
    | none => simp [predicate] at pieceMem
    | some clause =>
        rw [predicate] at pieceMem
        exact Clause.isSolid_of_mem_pieces (readable.readable_predicate clause predicate).legible
          pieceMem
  · rcases List.mem_map.mp pieceMem with ⟨directive, directiveMem, rfl⟩
    apply directive.isSolid_text
    intro key keyMem
    apply readable.plain_sort
    rw [← filterMap_sortKey?_directives]
    exact List.mem_filterMap.mpr ⟨directive, directiveMem, keyMem⟩

theorem append_inj_of_forall {Value : Type} {property : Value → Prop}
    {front front' back back' : List Value}
    (frontHas : ∀ value ∈ front, property value) (frontHas' : ∀ value ∈ front', property value)
    (backLacks : ∀ value ∈ back, ¬property value) (backLacks' : ∀ value ∈ back', ¬property value)
    (same : front ++ back = front' ++ back') : front = front' ∧ back = back' := by
  rcases List.append_eq_append_iff.mp same with ⟨gap, longer, rest⟩ | ⟨gap, longer, rest⟩
  · cases gap with
    | nil => simpa [eq_comm] using And.intro longer rest
    | cons value gap =>
        exact absurd (frontHas' value (by simp [longer])) (backLacks value (by simp [rest]))
  · cases gap with
    | nil => simpa [eq_comm] using And.intro longer rest
    | cons value gap =>
        exact absurd (frontHas value (by simp [longer])) (backLacks' value (by simp [rest]))

/-- The full stop in front of directives tells them from the pieces of the predicate. -/
theorem pieces_inj (leftReadable : left.IsReadable) (rightReadable : right.IsReadable)
    (same : left.pieces = right.pieces) :
    left.predicate.elim [] Clause.pieces = right.predicate.elim [] Clause.pieces ∧
      left.directives = right.directives := by
  have undotted {query : CompiledQuery} (readable : query.IsReadable) :
      ∀ piece ∈ query.predicate.elim [] Clause.pieces, piece.toList.head? ≠ some '.' := by
    intro piece pieceMem
    cases predicate : query.predicate with
    | none => simp [predicate] at pieceMem
    | some clause =>
        rw [predicate] at pieceMem
        exact Clause.head?_ne_dot_of_mem_pieces
          (readable.readable_predicate clause predicate).legible
          (readable.undotted_predicate clause predicate) pieceMem
  have dotted (query : CompiledQuery) :
      ∀ piece ∈ query.directives.map Directive.text, ¬piece.toList.head? ≠ some '.' := by
    intro piece pieceMem
    rcases List.mem_map.mp pieceMem with ⟨directive, _, rfl⟩
    exact not_not_intro directive.head?_text
  rcases append_inj_of_forall (undotted leftReadable) (undotted rightReadable) (dotted left)
    (dotted right) same with ⟨samePredicate, sameDirectives⟩
  exact ⟨samePredicate, List.map_injective_iff.mpr Directive.text_injective sameDirectives⟩

theorem outline_eq_of_predicatePieces_eq (leftReadable : left.IsReadable)
    (rightReadable : right.IsReadable)
    (same : left.predicate.elim [] Clause.pieces = right.predicate.elim [] Clause.pieces) :
    left.predicate.map Clause.outline = right.predicate.map Clause.outline := by
  cases leftPredicate : left.predicate with
  | none =>
      cases rightPredicate : right.predicate with
      | none => rfl
      | some clause' =>
          have readable' := rightReadable.readable_predicate clause' rightPredicate
          rw [leftPredicate, rightPredicate] at same
          exact absurd same.symm (Clause.pieces_ne_nil readable')
  | some clause =>
      have readable := leftReadable.readable_predicate clause leftPredicate
      cases rightPredicate : right.predicate with
      | none =>
          rw [leftPredicate, rightPredicate] at same
          exact absurd same (Clause.pieces_ne_nil readable)
      | some clause' =>
          have readable' := rightReadable.readable_predicate clause' rightPredicate
          rw [leftPredicate, rightPredicate] at same
          exact congrArg some (Clause.outline_eq_of_pieces_eq readable readable' same)

/-- The text of a query determines the outline of its predicate, its sort keys, its page and all
flags that show in it. -/
theorem outline_eq_of_text_eq (leftReadable : left.IsReadable) (rightReadable : right.IsReadable)
    (same : left.text = right.text) :
    left.predicate.map Clause.outline = right.predicate.map Clause.outline ∧
      left.sort = right.sort ∧
      left.page.top.filter (0 < ·) = right.page.top.filter (0 < ·) ∧
      left.page.skip.filter (0 < ·) = right.page.skip.filter (0 < ·) ∧
      left.flags.autofilters = right.flags.autofilters ∧
      left.flags.lifespan = right.flags.lifespan ∧
      (left.flags.executionMode = .quick ↔ right.flags.executionMode = .quick) := by
  rw [text_eq_intercalate_pieces leftReadable, text_eq_intercalate_pieces rightReadable] at same
  have samePieces := intercalate_inj_of_isSolid
    (fun _ pieceMem => isSolid_of_mem_pieces leftReadable pieceMem)
    (fun _ pieceMem => isSolid_of_mem_pieces rightReadable pieceMem) same
  rcases pieces_inj leftReadable rightReadable samePieces with ⟨samePredicate, sameDirectives⟩
  refine ⟨?_, ?_, ?_, ?_, ?_, ?_, ?_⟩
  · exact outline_eq_of_predicatePieces_eq leftReadable rightReadable samePredicate
  · rw [← filterMap_sortKey?_directives, sameDirectives, filterMap_sortKey?_directives]
  · have sameTop : (left.page.top.filter (0 < ·)).toList =
        (right.page.top.filter (0 < ·)).toList := by
      rw [← filterMap_top?_directives, sameDirectives, filterMap_top?_directives]
    simpa using congrArg List.head? sameTop
  · have sameSkip : (left.page.skip.filter (0 < ·)).toList =
        (right.page.skip.filter (0 < ·)).toList := by
      rw [← filterMap_skip?_directives, sameDirectives, filterMap_skip?_directives]
    simpa using congrArg List.head? sameSkip
  · have sameFlag : left.flags.autofilters = .disabled ↔ right.flags.autofilters = .disabled := by
      rw [← autofiltersOff_mem_directives, sameDirectives, autofiltersOff_mem_directives]
    cases leftMode : left.flags.autofilters <;> cases rightMode : right.flags.autofilters <;>
      simp_all
  · have sameFlag : left.flags.lifespan = .enabled ↔ right.flags.lifespan = .enabled := by
      rw [← lifespanOn_mem_directives, sameDirectives, lifespanOn_mem_directives]
    cases leftMode : left.flags.lifespan <;> cases rightMode : right.flags.lifespan <;> simp_all
  · rw [← quick_mem_directives, sameDirectives, quick_mem_directives]

/-- Two queries that differ in the case of a type name, in a page of no results and in a strict
execution have one text, and it does not tell these apart. -/
theorem outline_eq_of_text_eq_typeName :
    let predicate (typeName : String) : Clause :=
      .and [.not (Term.equality "Name" (.text "it's (-b .TOP:1")),
        .or [Term.wildcard "Path" "a " .endsWith, .not (Term.typeFilter typeName true)]]
    let left : CompiledQuery :=
      { predicate := some (predicate "Car"), sort := [⟨"Name", .descending⟩],
        page := { top := some 0, skip := some 8 }, flags := { executionMode := .strict } }
    let right : CompiledQuery :=
      { predicate := some (predicate "CAR"), sort := [⟨"Name", .descending⟩],
        page := { skip := some 8 } }
    left.IsReadable ∧ right.IsReadable ∧ left.text = right.text ∧
      left.predicate.map Clause.outline = right.predicate.map Clause.outline ∧
      left.sort = right.sort ∧
      left.page.top.filter (0 < ·) = right.page.top.filter (0 < ·) ∧
      left.page.skip.filter (0 < ·) = right.page.skip.filter (0 < ·) ∧
      left.flags.autofilters = right.flags.autofilters ∧
      left.flags.lifespan = right.flags.lifespan ∧
      (left.flags.executionMode = .quick ↔ right.flags.executionMode = .quick) := by
  intro predicate left right
  have readable (typeName : String) (legible : (predicate typeName).IsLegible) :
      (predicate typeName).IsReadable := by
    refine ⟨legible, ?_, ?_⟩
    · simp [predicate, Clause.Everywhere, Clause.parts, Clause.partsOfAll, Clause.HasTwoMembers]
    · simp [predicate, Clause.Everywhere, Clause.parts, Clause.partsOfAll,
        Clause.HasPositiveAlternative]
  have leftReadable : left.IsReadable := by
    refine ⟨?_, ?_, by decide⟩
    · rintro clause ⟨⟩
      exact readable "Car" (by decide)
    · rintro clause ⟨⟩
      decide
  have rightReadable : right.IsReadable := by
    refine ⟨?_, ?_, by decide⟩
    · rintro clause ⟨⟩
      exact readable "CAR" (by decide)
    · rintro clause ⟨⟩
      decide
  have same : left.text = right.text := by decide +kernel
  exact ⟨leftReadable, rightReadable, same, outline_eq_of_text_eq leftReadable rightReadable same⟩

end CompiledQuery

end ContentQuery
