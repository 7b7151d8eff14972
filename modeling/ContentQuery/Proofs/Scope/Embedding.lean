import ContentQuery.Query.Text
import ContentQuery.Proofs.Clause.Ending
import ContentQuery.Proofs.Scope.Meaning

/-!
# Scopes with the text of a clause

A scope takes its raw query as text. This file compares a scope whose raw query is the text of a
clause with the scope that would put the clause itself in that place.

The main statement is that the two give queries of one text, unless the text of the clause ends in
an escaped blank: trimming the raw query cuts that blank and leaves its escape behind.
-/

namespace ContentQuery

open Text

theorem Text.exists_intercalate_eq (front back : List String) :
    ∃ before after, ∀ text,
      " ".intercalate (front ++ text :: back) = before ++ text ++ after := by
  have openEnd : ∃ after, ∀ text, " ".intercalate (text :: back) = text ++ after := by
    cases back with
    | nil => exact ⟨"", fun text => by simp⟩
    | cons next back =>
        exact ⟨" " ++ " ".intercalate (next :: back), fun text => by
          rw [String.intercalate_cons_cons, String.append_assoc]⟩
  rcases openEnd with ⟨after, whole⟩
  cases front with
  | nil => exact ⟨"", after, fun text => by simp [whole]⟩
  | cons first front =>
      refine ⟨" ".intercalate (first :: front) ++ " ", after, ?_⟩
      intro text
      rw [String.intercalate_append_of_ne_nil (by simp) (by simp), whole]
      simp only [String.append_assoc]

/-- Texts joined by blanks show what each of them is when the others are known. -/
theorem Text.intercalate_eq_iff (front back : List String) {left right : String} :
    " ".intercalate (front ++ left :: back) = " ".intercalate (front ++ right :: back) ↔
      left = right := by
  rcases exists_intercalate_eq front back with ⟨before, after, whole⟩
  rw [whole, whole, String.append_left_inj, String.append_right_inj]

/-! ### Clauses that stand alike -/

namespace Clause

/-- Neither clause is negated, and both need parentheses inside another clause or neither does. -/
structure StandsLike (left right : Clause) : Prop where
  left_not_negated : left.isNegated = false
  right_not_negated : right.isNegated = false
  memberText_eq_iff : left.memberText = right.memberText ↔ left.text = right.text

variable {connective : Connective} {front back : List Clause} {left right : Clause}

theorem StandsLike.text_group_eq_iff (alike : StandsLike left right) :
    (connective.group (front ++ left :: back)).text =
        (connective.group (front ++ right :: back)).text ↔
      left.text = right.text := by
  rw [text_group, text_group, Connective.memberTexts, Connective.memberTexts, List.map_append,
    List.map_append, List.map_cons, List.map_cons, sideBySide, sideBySide, intercalate_eq_iff,
    Connective.memberText, Connective.memberText, alike.left_not_negated, alike.right_not_negated,
    String.append_right_inj, alike.memberText_eq_iff]

theorem standsLike_group (members members' : List Clause) :
    StandsLike (connective.group members) (connective.group members') := by
  refine ⟨isNegated_group, isNegated_group, ?_⟩
  rw [memberText_group, memberText_group, String.append_left_inj, String.append_right_inj]

/-- The text of a canonical clause as a raw term stands like the clause. -/
theorem standsLike_raw {clause : Clause} (canonical : clause.IsCanonical)
    (legible : clause.IsLegible) : StandsLike (term (.raw (trim clause.text))) clause := by
  refine ⟨rfl, canonical.not_negated, ?_⟩
  have composite : (Term.raw (trim clause.text)).isCompositeFragment = clause.isComposite := by
    rw [Term.isCompositeFragment, isComposite_trim (exists_opening_text canonical legible),
      isComposite_text canonical legible]
  rw [memberText, composite, memberText_eq_ite canonical.not_negated legible, Clause.text]
  split
  · rw [String.append_left_inj, String.append_right_inj]
  · rfl

end Clause

namespace Scope

open Clause

/-- Adds a part to the conjunction at the top of a predicate. -/
def addPart (part : Clause) : Option Clause → Clause
  | none => part
  | some (.and members) => .and (members ++ [part])
  | some predicate => .and [predicate, part]

/-- The predicate with a part in the place of the raw query of the scope. -/
def embed (scope : Scope) (part : Clause) (predicate : Option Clause) :
    Except CompileError Clause := do
  let path ← scope.pathTerm?
  let joined := addPart part predicate
  return path.elim joined fun path => addPath scope.pathUsage path (some joined)

/-- The scope uses no path, or it has one that is not blank. -/
def HasPlace (scope : Scope) : Prop :=
  scope.pathUsage = .none ∨ ∃ path ∈ scope.basePath, isBlankText path = false

instance (scope : Scope) : Decidable scope.HasPlace :=
  inferInstanceAs (Decidable (scope.pathUsage = .none ∨
    ∃ path ∈ scope.basePath, isBlankText path = false))

theorem addRaw_eq_addPart (raw : Term) (predicate : Option Clause) :
    addRaw raw predicate = addPart (.term raw) predicate := by
  rcases predicate with _ | predicate
  · rfl
  · cases predicate <;> rfl

theorem exists_pathTerm? {scope : Scope} (place : scope.HasPlace) :
    ∃ path, scope.pathTerm? = .ok path := by
  rcases place with unused | ⟨path, based, notBlank⟩
  · exact ⟨none, by simp [pathTerm?, unused]⟩
  · rw [Option.mem_def] at based
    cases usage : scope.pathUsage with
    | none => exact ⟨none, by simp [pathTerm?, usage]⟩
    | inFolderAnd | inFolderOr => simp [pathTerm?, usage, based, notBlank]

/-- A scope with a raw query puts it into the predicate as one part. -/
theorem exists_combine_of_embed {scope : Scope} {query : CompiledQuery} {raw : Term}
    {restricted : Clause} (reads : scope.rawTerm? = .ok (some raw))
    (embeds : scope.embed (.term raw) query.predicate = .ok restricted) :
    ∃ combined, scope.combine query = .ok combined ∧ combined.predicate = some restricted := by
  rw [embed, bind_eq_ok] at embeds
  rcases embeds with ⟨path, places, embeds⟩
  refine ⟨_, combine_eq_ok.mpr ⟨some raw, path, reads, places, rfl⟩, ?_⟩
  cases embeds
  cases path <;>
    simp only [joinPath, joinRaw, Option.elim_some, Option.elim_none, addRaw_eq_addPart]

variable {scope : Scope} {left right : Clause}

theorem addPart_some (part predicate : Clause) :
    addPart part (some predicate) =
      Connective.and.group (Connective.and.splice (some predicate) ++ [part]) := by
  cases predicate <;> rfl

theorem standsLike_addPart (alike : StandsLike left right) (predicate : Option Clause) :
    StandsLike (addPart left predicate) (addPart right predicate) := by
  cases predicate with
  | none => exact alike
  | some predicate =>
      rw [addPart_some, addPart_some]
      exact standsLike_group _ _

theorem text_addPart_eq_iff (alike : StandsLike left right) (predicate : Option Clause) :
    (addPart left predicate).text = (addPart right predicate).text ↔ left.text = right.text := by
  cases predicate with
  | none => rfl
  | some predicate =>
      rw [addPart_some, addPart_some]
      exact alike.text_group_eq_iff

/-- Parts that stand alike give predicates of one text exactly if they have one text themselves. -/
theorem text_embed_eq_iff (place : scope.HasPlace) (alike : StandsLike left right)
    (predicate : Option Clause) :
    ∃ leftEmbedded rightEmbedded, scope.embed left predicate = .ok leftEmbedded ∧
      scope.embed right predicate = .ok rightEmbedded ∧
        (leftEmbedded.text = rightEmbedded.text ↔ left.text = right.text) := by
  rcases exists_pathTerm? place with ⟨path, places⟩
  rw [embed, embed, places]
  refine ⟨_, _, rfl, rfl, ?_⟩
  rw [← text_addPart_eq_iff alike predicate]
  cases path with
  | none => rfl
  | some path =>
      simp only [Option.elim_some, addPath_some]
      exact @StandsLike.text_group_eq_iff scope.pathUsage.connective [] [term path] _ _
        (standsLike_addPart alike predicate)

theorem text_predicate_eq_iff (query : CompiledQuery) (first second : Clause) :
    { query with predicate := some first }.text = { query with predicate := some second }.text ↔
      first.text = second.text :=
  intercalate_eq_iff [] _

/-- A scope whose raw query is the text of a canonical clause gives the query text that it would
give with the clause itself, unless that text ends in an escaped blank. -/
theorem text_combine_eq_iff {clause : Clause} (canonical : clause.IsCanonical)
    (legible : clause.IsLegible) (place : scope.HasPlace)
    (reads : scope.rawQuery = some clause.text) (query : CompiledQuery) :
    ∃ combined embedded, scope.combine query = .ok combined ∧
      scope.embed clause query.predicate = .ok embedded ∧
        (combined.text = { combined with predicate := some embedded }.text ↔
          clause.isOpenEnded = false) := by
  have opens := exists_opening_text canonical legible
  have readsRaw : scope.rawTerm? = .ok (some (.raw (trim clause.text))) := by
    rw [rawTerm?, reads]
    simp [isBlankText_eq_false opens]
  rcases text_embed_eq_iff place (standsLike_raw canonical legible) query.predicate with
    ⟨withRaw, embedded, embedsRaw, embeds, same⟩
  rcases exists_combine_of_embed readsRaw embedsRaw with ⟨combined, combines, predicate⟩
  refine ⟨combined, embedded, combines, embeds, ?_⟩
  have whole : { combined with predicate := some withRaw } = combined := by rw [← predicate]
  calc combined.text = { combined with predicate := some embedded }.text
      ↔ withRaw.text = embedded.text := by
        conv_lhs => lhs; rw [← whole]
        exact text_predicate_eq_iff combined withRaw embedded
    _ ↔ trim (trim clause.text) = clause.text := same
    _ ↔ clause.isOpenEnded = false := by
        -- the scope trims its raw query, and the raw term trims it again where it is written
        rw [trim_trim opens, trim_text_eq_self_iff canonical legible]

/-- With a folder beside it, a disjunction agrees with its text, though the pattern inside ends in a
blank; the pattern alone loses its blank, and its escape stands before the sign of the folder. -/
theorem text_combine_trailingBlank :
    let pattern := Clause.term (.wildcard "Name" "a " .endsWith)
    let alternatives := Clause.or [pattern, .not (.and [pattern, Term.reference "B" 2])]
    let scope (clause : Clause) : Scope :=
      { pathUsage := .inFolderAnd, basePath := some "/root", rawQuery := some clause.text }
    (∃ combined embedded, (scope alternatives).combine {} = .ok combined ∧
      (scope alternatives).embed alternatives none = .ok embedded ∧
        combined.text = { combined with predicate := some embedded }.text) ∧
    ∃ combined embedded, (scope pattern).combine {} = .ok combined ∧
      (scope pattern).embed pattern none = .ok embedded ∧
        combined.text ≠ { combined with predicate := some embedded }.text ∧
          combined.text = "+Name:*a\\ +InFolder:/root" ∧
            embedded.text = "+Name:*a\\  +InFolder:/root" := by
  intro pattern alternatives scope
  have patternCanonical : pattern.IsCanonical :=
    @isCanonical_normalize "Id" pattern ⟨pattern, false⟩ rfl
  have alternativesCanonical : alternatives.IsCanonical :=
    @isCanonical_normalize "Id" alternatives ⟨alternatives, false⟩ rfl
  constructor
  · rcases @text_combine_eq_iff (scope alternatives) _ alternativesCanonical (by decide) (by decide)
      rfl {} with ⟨combined, embedded, combines, embeds, same⟩
    exact ⟨combined, embedded, combines, embeds, same.mpr (by decide)⟩
  · have combinesTo : (scope pattern).combine {} =
        .ok { predicate := some (.and [Term.raw "Name:*a\\", Term.scope .inFolder "/root"]) } := by
      have reads : (scope pattern).rawTerm? = .ok (some (.raw "Name:*a\\")) := by
        have written : pattern.text = "Name:*a\\ " := by decide
        have trimmed : trim "Name:*a\\ " = "Name:*a\\" := by decide
        simp only [rawTerm?, scope, written, trimmed]
        rfl
      rw [combine, reads]
      rfl
    have embedsTo : (scope pattern).embed pattern none =
        .ok (.and [pattern, Term.scope .inFolder "/root"]) := by
      rfl
    rcases @text_combine_eq_iff (scope pattern) _ patternCanonical (by decide) (by decide)
      rfl {} with ⟨combined, embedded, combines, embeds, same⟩
    cases combinesTo.symm.trans combines
    cases embedsTo.symm.trans embeds
    refine ⟨_, _, combines, embeds, fun agree => ?_, by decide, by decide⟩
    have closed := same.mp agree
    revert closed
    decide

end Scope

end ContentQuery
