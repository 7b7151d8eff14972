import ContentQuery.Field.Document
import Mathlib.Data.Set.Card

/-!
# Catalogs as maps

A catalog is what it resolves: it keeps one entry for each name, in the order of the names, so
neither its entries nor its size tell how it was built.

A catalog that was built by insertions and merges resolves a name to what was inserted for it last,
where the insertions of an overlay count as made after those of the catalog below it.
-/

namespace ContentQuery

namespace FieldCatalog

variable {catalog first second : FieldCatalog} {name other : String} {info : FieldInfo}

/-! ### Entries -/

/-- What a catalog keeps, in the order of the names. -/
def entries (catalog : FieldCatalog) : List (String × FieldInfo) :=
  catalog.fields.toList

theorem mem_entries_iff : (name, info) ∈ catalog.entries ↔ catalog.resolve? name = some info :=
  Std.ExtTreeMap.mem_toList_iff_getElem?_eq_some

/-- Names are in order, and none of them occurs twice. -/
theorem pairwise_entries (catalog : FieldCatalog) :
    catalog.entries.Pairwise fun entry later => entry.1 < later.1 := by
  apply Std.ExtTreeMap.ordered_keys_toList.imp
  intro entry later inOrder
  exact compareOfLessAndEq_eq_lt.mp inOrder

theorem eq_iff_resolve?_eq : first = second ↔ ∀ name, first.resolve? name = second.resolve? name :=
  ⟨fun same _ => same ▸ rfl, ext_resolve?⟩

theorem eq_iff_entries_eq : first = second ↔ first.entries = second.entries := by
  refine ⟨congrArg entries, fun same => ext_resolve? fun name => Option.ext fun info => ?_⟩
  rw [← mem_entries_iff, same, mem_entries_iff]

/-! ### Names -/

/-- The names that a catalog resolves. -/
def names (catalog : FieldCatalog) : Set String :=
  {name | (catalog.resolve? name).isSome}

theorem names_merge (catalog overlay : FieldCatalog) :
    (catalog.merge overlay).names = catalog.names ∪ overlay.names := by
  ext name
  simp [names, or_comm]

theorem encard_names (catalog : FieldCatalog) : catalog.names.encard = catalog.size := by
  have known : catalog.names = catalog.fields.keys.toFinset := by
    ext name
    simp [names, resolve?, Std.ExtTreeMap.mem_keys]
  rw [known, Set.encard_coe_eq_coe_finsetCard,
    List.toFinset_card_of_nodup Std.ExtTreeMap.nodup_keys, Std.ExtTreeMap.length_keys, size]

/-! ### Insertions and merges -/

theorem resolve?_insert_self (catalog : FieldCatalog) (name : String) (info : FieldInfo) :
    (catalog.insert name info).resolve? name = some info := by
  rw [resolve?_insert, if_pos rfl]

theorem resolve?_insert_of_ne (catalog : FieldCatalog) (info : FieldInfo)
    (elsewhere : other ≠ name) :
    (catalog.insert name info).resolve? other = catalog.resolve? other := by
  rw [resolve?_insert, if_neg elsewhere.symm]

theorem insert_comm (catalog : FieldCatalog) (info otherInfo : FieldInfo)
    (elsewhere : other ≠ name) :
    (catalog.insert name info).insert other otherInfo =
      (catalog.insert other otherInfo).insert name info := by
  ext1 wanted
  simp only [resolve?_insert]
  by_cases isOther : other = wanted
  · subst isOther
    rw [if_pos rfl, if_neg elsewhere.symm, if_pos rfl]
  · rw [if_neg isOther, if_neg isOther]

theorem merge_assoc (first second third : FieldCatalog) :
    (first.merge second).merge third = first.merge (second.merge third) := by
  ext1 name
  simp only [resolve?_merge, Option.or_assoc]

@[simp]
theorem merge_self (catalog : FieldCatalog) : catalog.merge catalog = catalog := by
  ext1 name
  rw [resolve?_merge, Option.or_self]

@[simp]
theorem merge_empty (catalog : FieldCatalog) : catalog.merge empty = catalog := by
  ext1 name
  rw [resolve?_merge, resolve?_empty, Option.none_or]

@[simp]
theorem empty_merge (catalog : FieldCatalog) : empty.merge catalog = catalog := by
  ext1 name
  rw [resolve?_merge, resolve?_empty, Option.or_none]

/-- One more insertion, where names are resolved to what was inserted for them last. -/
theorem resolve?_insert_of_lookup {fields : List (String × FieldInfo)} {wanted : String}
    (resolves : catalog.resolve? wanted = fields.reverse.lookup wanted) (name : String)
    (info : FieldInfo) :
    (catalog.insert name info).resolve? wanted =
      (fields ++ [(name, info)]).reverse.lookup wanted := by
  rw [resolve?_insert, resolves, List.reverse_concat, List.lookup_cons]
  by_cases same : name = wanted
  · simp [same]
  · simp [same, beq_eq_false_iff_ne.mpr (Ne.symm same)]

theorem resolve?_ofList (fields : List (String × FieldInfo)) (name : String) :
    (ofList fields).resolve? name = fields.reverse.lookup name := by
  induction fields using List.reverseRecOn with
  | nil => exact resolve?_empty name
  | append_singleton fields last ih =>
      rw [ofList, List.foldl_concat]
      exact resolve?_insert_of_lookup ih last.1 last.2

end FieldCatalog

/-! ### Histories -/

/-- How a catalog was built. -/
inductive CatalogHistory where
  | empty
  | insert (history : CatalogHistory) (name : String) (info : FieldInfo)
  | merge (history overlay : CatalogHistory)

namespace CatalogHistory

/-- The catalog that comes of a history. -/
def catalog : CatalogHistory → FieldCatalog
  | empty => .empty
  | insert history name info => history.catalog.insert name info
  | merge history overlay => history.catalog.merge overlay.catalog

/-- All insertions, those of an overlay after those of the catalog that it lies over. -/
def insertions : CatalogHistory → List (String × FieldInfo)
  | empty => []
  | insert history name info => history.insertions ++ [(name, info)]
  | merge history overlay => history.insertions ++ overlay.insertions

theorem resolve?_catalog (history : CatalogHistory) (name : String) :
    history.catalog.resolve? name = history.insertions.reverse.lookup name := by
  induction history with
  | empty => exact FieldCatalog.resolve?_empty name
  | insert history inserted info ih => exact FieldCatalog.resolve?_insert_of_lookup ih inserted info
  | merge history overlay ih ihOverlay =>
      rw [catalog, FieldCatalog.resolve?_merge, ih, ihOverlay, insertions, List.reverse_append,
        List.lookup_append]

theorem catalog_eq_ofList (history : CatalogHistory) :
    history.catalog = FieldCatalog.ofList history.insertions := by
  ext1 name
  rw [resolve?_catalog, FieldCatalog.resolve?_ofList]

end CatalogHistory

/-- Catalogs are maps, and in a merge the overlay wins. What a catalog resolves tells it from all
others: its entries are in the order of their names, so two catalogs have the same entries if and
only if they resolve every name alike, however they were built. A catalog that was built by
insertions and merges resolves a name to what was inserted for it last, and its size is the number
of names that it resolves. -/
theorem FieldCatalog.resolve?_determines (first second third : FieldCatalog) (name : String)
    (info : FieldInfo) :
    ((first.merge second).resolve? name = (second.resolve? name).or (first.resolve? name) ∧
        (first.insert name info).resolve? name = some info ∧
        ∀ other, other ≠ name → (first.insert name info).resolve? other = first.resolve? other) ∧
      ((first = second ↔ ∀ wanted, first.resolve? wanted = second.resolve? wanted) ∧
        (first = second ↔ first.entries = second.entries) ∧
        first.entries.Pairwise fun entry later => entry.1 < later.1) ∧
      (∀ history : CatalogHistory,
        history.catalog = ofList history.insertions ∧
          history.catalog.resolve? name = history.insertions.reverse.lookup name) ∧
      ((first.merge second).merge third = first.merge (second.merge third) ∧
        first.merge first = first ∧ first.merge empty = first ∧ empty.merge first = first ∧
        ∀ other otherInfo, other ≠ name →
          (first.insert name info).insert other otherInfo =
            (first.insert other otherInfo).insert name info) ∧
      first.names.encard = first.size ∧
      (first.names ∪ second.names).encard = (first.merge second).size := by
  refine ⟨⟨resolve?_merge first second name, resolve?_insert_self first name info, ?_⟩,
    ⟨eq_iff_resolve?_eq, eq_iff_entries_eq, pairwise_entries first⟩, ?_,
    ⟨merge_assoc first second third, merge_self first, merge_empty first, empty_merge first, ?_⟩,
    encard_names first, ?_⟩
  · exact fun other elsewhere => resolve?_insert_of_ne first info elsewhere
  · exact fun history => ⟨history.catalog_eq_ofList, history.resolve?_catalog name⟩
  · exact fun other otherInfo elsewhere => insert_comm first info otherInfo elsewhere
  · rw [← names_merge, encard_names]

/-- An overlay over the fields of every content item gives the name another type and adds two
fields, in whichever order. -/
theorem FieldCatalog.resolve?_determines_overlay :
    let number : FieldInfo := { indexedName := "Name", type := .int }
    let keywords : FieldInfo := { indexedName := "Tag", type := .text, multivalued := true }
    let cost : FieldInfo := { indexedName := "Price", type := .float }
    let renamed := empty.insert "Name" number
    let overlay := (renamed.insert "Keywords" keywords).insert "Cost" cost
    "Cost" ≠ "Keywords" ∧
      overlay = (renamed.insert "Cost" cost).insert "Keywords" keywords ∧
      overlay.resolve? "Keywords" = some keywords ∧
      (standard.merge overlay).resolve? "Name" = some number ∧
      (standard.merge overlay).resolve? "IsFolder" =
        some { indexedName := "IsFolder", type := .bool } ∧
      (standard.names ∪ overlay.names).encard = 19 := by
  intro number keywords cost renamed overlay
  have elsewhere : "Cost" ≠ "Keywords" := by decide
  have laws := resolve?_determines renamed standard empty "Keywords" keywords
  have costLaws :=
    resolve?_determines (renamed.insert "Keywords" keywords) standard empty "Cost" cost
  have nameMerges := (resolve?_determines standard overlay empty "Name" number).1.1
  have folderMerges := (resolve?_determines standard overlay empty "IsFolder" number).1.1
  have size : (standard.merge overlay).size = 19 := by decide
  refine ⟨elsewhere, laws.2.2.2.1.2.2.2.2 "Cost" cost elsewhere, ?_, ?_, ?_, ?_⟩
  · rw [costLaws.1.2.2 "Keywords" elsewhere.symm, laws.1.2.1]
  · rw [nameMerges]
    decide
  · rw [folderMerges]
    decide
  · rw [(resolve?_determines standard overlay empty "Name" number).2.2.2.2.2, size]
    rfl

end ContentQuery
