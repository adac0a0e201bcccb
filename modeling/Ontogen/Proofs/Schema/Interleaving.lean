import Ontogen.Proofs.Schema.Properties

/-!
# Rows of several properties

The rows of an answer may come in any order, those of one property between those of others.
Every row is noted in the draft of its own property and leaves the others as they are, so the
draft of a property is what its own rows make of an empty one
(`find?_foldl_noteRow`), and a property gets its place with its first row
(`keys_foldl_noteRow`). Both together are all that is known in the end (`propertiesOf_eq`).

Main result: `propertiesOf_interleaved`.
-/

namespace Ontogen

open Rdf (Term)
open Rdf.Vocabulary
open Data (OrderedMap)

/-- The URIs that rows have as their properties, each where it comes first. -/
def rowUris (rows : List PropertyRow) : List Uri :=
  (rows.filterMap fun row => row.property.uri?).eraseDups

/-- The rows of one property. -/
def rowsOf (uri : Uri) (rows : List PropertyRow) : List PropertyRow :=
  rows.filter fun row => row.property = .uri uri

section

variable {rows rows' : List PropertyRow} {row : PropertyRow} {uri : Uri}

/-! ## One more row -/

theorem rowUris_concat_of_uri (h : row.property = .uri uri) :
    rowUris (rows ++ [row])
      = if uri ∈ rowUris rows then rowUris rows else rowUris rows ++ [uri] := by
  have hrow : [row].filterMap (fun row => row.property.uri?) = [uri] := by simp [h, Term.uri?]
  rw [rowUris, List.filterMap_append, hrow, Data.eraseDups_concat]
  simp only [rowUris, List.mem_eraseDups]

theorem rowUris_concat_of_none (h : row.property.uri? = none) :
    rowUris (rows ++ [row]) = rowUris rows := by
  have hrow : [row].filterMap (fun row => row.property.uri?) = [] := by simp [h]
  rw [rowUris, List.filterMap_append, hrow, List.append_nil, rowUris]

theorem rowsOf_concat_of_uri (h : row.property = .uri uri) :
    rowsOf uri (rows ++ [row]) = rowsOf uri rows ++ [row] := by
  simp [rowsOf, List.filter_append, h]

theorem rowsOf_concat_of_ne (h : row.property ≠ .uri uri) :
    rowsOf uri (rows ++ [row]) = rowsOf uri rows := by
  simp [rowsOf, List.filter_append, h]

/-! ## All rows -/

theorem keys_foldl_noteRow (rows : List PropertyRow) :
    (rows.foldl noteRow ∅).keys = rowUris rows := by
  induction rows using List.reverseRecOn with
  | nil => rfl
  | append_singleton rows row ih =>
    rw [List.foldl_append, List.foldl_cons, List.foldl_nil, noteRow]
    split
    next uri huri =>
      rw [OrderedMap.keys_insert, ih, rowUris_concat_of_uri (Term.uri?_eq_some_iff.mp huri)]
    next hnone => rw [ih, rowUris_concat_of_none hnone]

/-- What is known of a property comes from its own rows alone. -/
theorem find?_foldl_noteRow (rows : List PropertyRow) (uri : Uri) :
    ((rows.foldl noteRow ∅).find? uri).getD {} = (rowsOf uri rows).foldl .note {} := by
  induction rows using List.reverseRecOn with
  | nil => rfl
  | append_singleton rows row ih =>
    rw [List.foldl_append, List.foldl_cons, List.foldl_nil, noteRow]
    split
    next other hother =>
      have hproperty := Term.uri?_eq_some_iff.mp hother
      rw [OrderedMap.find?_insert]
      by_cases h : uri = other
      · subst h
        rw [if_pos rfl, rowsOf_concat_of_uri hproperty, List.foldl_append, ← ih]
        rfl
      · have hne : row.property ≠ .uri uri := by
          rw [hproperty]
          exact fun heq => h (Term.uri.inj heq).symm
        rw [if_neg h, rowsOf_concat_of_ne hne, ih]
    next hnone =>
      have hne : row.property ≠ .uri uri := by
        intro heq
        rw [heq] at hnone
        cases hnone
      rw [rowsOf_concat_of_ne hne, ih]

/-- The property that rows describe when all of them are its own. -/
def propertyFrom (uri : Uri) (rows : List PropertyRow) : SchemaProperty :=
  (rows.foldl PropertyDraft.note {}).property uri

/-- Every property is described by its own rows, and stands where the first of them does. -/
theorem propertiesOf_eq (rows : List PropertyRow) :
    propertiesOf rows = (rowUris rows).map fun uri => propertyFrom uri (rowsOf uri rows) := by
  rw [propertiesOf, OrderedMap.entries_eq_map_keys _ {}, keys_foldl_noteRow, List.map_map]
  refine List.map_congr_left fun uri _ => ?_
  rw [propertyFrom, ← find?_foldl_noteRow]
  rfl

theorem mem_rowUris : uri ∈ rowUris rows ↔ rowsOf uri rows ≠ [] := by
  rw [rowUris, List.mem_eraseDups, List.mem_filterMap, ne_eq, rowsOf, List.filter_eq_nil_iff]
  simp only [Term.uri?_eq_some_iff, decide_eq_true_eq, not_forall, not_not, exists_prop]

/-- A property is among those that rows describe when it has a row and is as its rows
describe it. -/
theorem mem_propertiesOf {p : SchemaProperty} :
    p ∈ propertiesOf rows
      ↔ rowsOf p.uri rows ≠ [] ∧ p = propertyFrom p.uri (rowsOf p.uri rows) := by
  rw [propertiesOf_eq, List.mem_map]
  constructor
  · rintro ⟨uri, huri, rfl⟩
    exact ⟨mem_rowUris.mp huri, rfl⟩
  · rintro ⟨hne, hp⟩
    exact ⟨p.uri, mem_rowUris.mpr hne, hp.symm⟩

/-! ## What rows say -/

/-- What the rows of a property say of it: its range is the first that is a URI, its comment
is the text of the first one, and its kind is the one that a type declares, objects before
data, or else the one that its range suggests. -/
structure IsToldBy (rows : List PropertyRow) (p : SchemaProperty) : Prop where
  range : p.range = (rows.filterMap PropertyRow.range).find? fun r => r.uri?.isSome
  comment : p.comment = (rows.filterMap PropertyRow.comment).head?.map Term.text
  kind_object : (∃ row ∈ rows, row.type = some (.uri owlObjectProperty)) → p.kind = .object
  kind_data : (¬ ∃ row ∈ rows, row.type = some (.uri owlObjectProperty)) →
    (∃ row ∈ rows, row.type = some (.uri owlDatatypeProperty)) → p.kind = .data
  kind_by_range : (¬ ∃ row ∈ rows, row.type = some (.uri owlObjectProperty)) →
    (¬ ∃ row ∈ rows, row.type = some (.uri owlDatatypeProperty)) →
    (p.kind = .data ↔ p.range = none ∨ p.range = some (.uri rdfsLiteral)
      ∨ ∃ name, p.range = some (.uri (xsd ++ name)))

theorem mem_types_iff {type : Uri} :
    type ∈ rows.filterMap PropertyRow.typeUri ↔ ∃ row ∈ rows, row.type = some (.uri type) := by
  simp only [List.mem_filterMap, PropertyRow.typeUri, Option.bind_eq_some_iff,
    Term.uri?_eq_some_iff, exists_eq_right]

theorem findSome?_rangeUri (rows : List PropertyRow) :
    rows.findSome? PropertyRow.rangeUri
      = (rows.filterMap PropertyRow.range).findSome? Term.uri? := by
  rw [← List.head?_filterMap, ← List.head?_filterMap, List.filterMap_filterMap]
  rfl

theorem findSome?_commentText (rows : List PropertyRow) :
    rows.findSome? PropertyRow.commentText
      = (rows.filterMap PropertyRow.comment).head?.map Term.text := by
  rw [← List.head?_filterMap, ← List.head?_map, List.map_filterMap]
  rfl

theorem isToldBy_propertyFrom (uri : Uri) (rows : List PropertyRow) :
    IsToldBy rows (propertyFrom uri rows) := by
  have hdraft : propertyFrom uri rows = {
      uri := uri
      kind := .of (rows.filterMap PropertyRow.typeUri) (rows.findSome? PropertyRow.rangeUri)
      range := (rows.findSome? PropertyRow.rangeUri).map .uri
      comment := rows.findSome? PropertyRow.commentText } := by
    rw [propertyFrom, foldl_note_empty]
    rfl
  rw [hdraft]
  exact {
    range := by
      rw [findSome?_rangeUri]
      exact Rdf.Graph.map_uri_findSome?_uri? _
    comment := findSome?_commentText rows
    kind_object := fun h => PropertyKind.of_object (mem_types_iff.mpr h)
    kind_data := fun hobject h =>
      PropertyKind.of_data (mt mem_types_iff.mp hobject) (mem_types_iff.mpr h)
    kind_by_range := by
      intro hobject hdata
      rw [PropertyKind.of_eq_data_iff (mt mem_types_iff.mp hobject) (mt mem_types_iff.mp hdata)]
      simp only [Option.map_eq_none_iff, Option.map_eq_some_iff, Term.uri.injEq,
        exists_eq_right] }

/-! ## Rows without effect -/

/-- The rows that are about a URI at all. -/
def namedRows (rows : List PropertyRow) : List PropertyRow :=
  rows.filter fun row => row.property.uri?.isSome

theorem rowsOf_namedRows (uri : Uri) (rows : List PropertyRow) :
    rowsOf uri (namedRows rows) = rowsOf uri rows := by
  rw [rowsOf, namedRows, List.filter_filter, rowsOf]
  refine List.filter_congr fun row _ => ?_
  cases row.property <;> simp [Term.uri?]

theorem rowUris_namedRows (rows : List PropertyRow) : rowUris (namedRows rows) = rowUris rows := by
  rw [rowUris, namedRows, List.filterMap_filter, rowUris]
  congr 1
  refine List.filterMap_congr fun row _ => ?_
  cases row.property <;> rfl

theorem propertiesOf_congr (hrows : ∀ uri, rowsOf uri rows' = rowsOf uri rows)
    (huris : rowUris rows' = rowUris rows) : propertiesOf rows' = propertiesOf rows := by
  rw [propertiesOf_eq, propertiesOf_eq, huris]
  exact List.map_congr_left fun uri _ => by rw [hrows]

end

/-- Rows describe one property for every URI among theirs, in the order of the first rows, and
each as its own rows tell it. The rows between these do not count for it, and rows of what is no
URI count for nothing. So the rows may be mixed in any way that leaves those of each property
and the first ones in their order. -/
theorem propertiesOf_interleaved (rows : List PropertyRow) :
    (propertiesOf rows).map SchemaProperty.uri = rowUris rows
      ∧ (rowUris rows).Nodup
      ∧ (∀ p ∈ propertiesOf rows, IsToldBy (rowsOf p.uri rows) p)
      ∧ (∀ rows' p, rowsOf p.uri rows' = rowsOf p.uri rows →
          (p ∈ propertiesOf rows' ↔ p ∈ propertiesOf rows))
      ∧ (∀ rows', (∀ uri, rowsOf uri rows' = rowsOf uri rows) → rowUris rows' = rowUris rows →
          propertiesOf rows' = propertiesOf rows)
      ∧ propertiesOf (namedRows rows) = propertiesOf rows := by
  refine ⟨?_, Data.nodup_eraseDups _, ?_, ?_, fun rows' => propertiesOf_congr, ?_⟩
  · rw [propertiesOf_eq, List.map_map]
    exact List.map_id _
  · intro p hp
    obtain ⟨-, hp⟩ := mem_propertiesOf.mp hp
    have htold := isToldBy_propertyFrom p.uri (rowsOf p.uri rows)
    rwa [← hp] at htold
  · intro rows' p hrows
    rw [mem_propertiesOf, mem_propertiesOf, hrows]
  · exact propertiesOf_congr (fun uri => rowsOf_namedRows uri rows) (rowUris_namedRows rows)

namespace Kennel

/-- Rows of two properties and of a node without a name, with what counts after what does
not. -/
def mixedRows : List PropertyRow := [
  ⟨.uri owner, none, none, some (.literal { text := "property" })⟩,
  ⟨.uri breed, some nameless, none, some (.uri owlDatatypeProperty)⟩,
  ⟨nameless, some (.uri owlThing), none, some (.uri owlObjectProperty)⟩,
  ⟨.uri breed, some (.uri (xsd ++ "string")), some nameless, none⟩,
  ⟨.uri owner, some (.uri dog), none, none⟩,
  ⟨.uri breed, some (.uri dog), some (.literal { text := "Rasse" }),
    some (.uri owlObjectProperty)⟩]

/-- The same rows, property by property. -/
def sortedRows : List PropertyRow :=
  mixedRows.filter (fun row => row.property = nameless)
    ++ rowsOf owner mixedRows ++ rowsOf breed mixedRows

theorem rowUris_mixedRows : rowUris mixedRows = [owner, breed] := by decide +kernel

theorem rowUris_sortedRows : rowUris sortedRows = [owner, breed] := by decide +kernel

theorem rowsOf_sortedRows (uri : Uri) : rowsOf uri sortedRows = rowsOf uri mixedRows := by
  by_cases huri : uri ∈ [owner, breed]
  · have hboth : ∀ u ∈ [owner, breed], rowsOf u sortedRows = rowsOf u mixedRows := by
      decide +kernel
    exact hboth uri huri
  · have hsorted : uri ∉ rowUris sortedRows := rowUris_sortedRows ▸ huri
    have hmixed : uri ∉ rowUris mixedRows := rowUris_mixedRows ▸ huri
    rw [mem_rowUris, not_not] at hsorted hmixed
    rw [hsorted, hmixed]

end Kennel

theorem kennel_propertiesOf_interleaved :
    (∀ uri, rowsOf uri Kennel.sortedRows = rowsOf uri Kennel.mixedRows)
      ∧ rowUris Kennel.sortedRows = rowUris Kennel.mixedRows
      ∧ Kennel.sortedRows ≠ Kennel.mixedRows
      ∧ propertiesOf Kennel.sortedRows = propertiesOf Kennel.mixedRows
      ∧ (propertiesOf Kennel.mixedRows).map SchemaProperty.uri = [Kennel.owner, Kennel.breed]
      ∧ ∃ p ∈ propertiesOf Kennel.mixedRows,
          p.uri = Kennel.breed ∧ p.range = some (.uri (xsd ++ "string"))
            ∧ p.comment = some "b" ∧ p.kind = .object
            ∧ rowsOf p.uri (rowsOf Kennel.breed Kennel.mixedRows)
              = rowsOf p.uri Kennel.mixedRows
            ∧ p ∈ propertiesOf (rowsOf Kennel.breed Kennel.mixedRows) := by
  have huris : rowUris Kennel.sortedRows = rowUris Kennel.mixedRows := by
    rw [Kennel.rowUris_sortedRows, Kennel.rowUris_mixedRows]
  obtain ⟨hmap, -, htold, hown, hmixed, -⟩ := propertiesOf_interleaved Kennel.mixedRows
  rw [Kennel.rowUris_mixedRows] at hmap
  refine ⟨Kennel.rowsOf_sortedRows, huris, by decide +kernel,
    hmixed _ Kennel.rowsOf_sortedRows huris, hmap, ?_⟩
  have hmem : Kennel.breed ∈ [Kennel.owner, Kennel.breed] := by simp
  rw [← hmap] at hmem
  obtain ⟨p, hp, huri⟩ := List.mem_map.mp hmem
  obtain ⟨hrange, hcomment, hobject, -, -⟩ := htold p hp
  have halone : rowsOf p.uri (rowsOf Kennel.breed Kennel.mixedRows)
      = rowsOf p.uri Kennel.mixedRows := by
    rw [huri]
    decide +kernel
  have hpart := (hown (rowsOf Kennel.breed Kennel.mixedRows) p halone).mpr hp
  rw [huri] at hrange hcomment hobject
  refine ⟨p, hp, huri, hrange.trans ?_, hcomment.trans ?_, hobject ?_, halone, hpart⟩
  · decide +kernel
  · decide +kernel
  · decide +kernel

end Ontogen
