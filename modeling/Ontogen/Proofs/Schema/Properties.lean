import Ontogen.Proofs.Data.OrderedMap
import Ontogen.Proofs.Rdf.Patterns
import Ontogen.Schema.Property

/-!
# The properties that a graph gives a class

The rows of a property are all combinations of its ranges, comments and types, so each
detail comes many times and mixed with those of the other kinds. What is noted from the
rows does not show it. A draft that has gone through rows knows the first range and the
first comment that any of them has, and all their types (`foldl_note`); for the rows of
one property these are the first of its own ranges that is a URI, the first of its own
comments, and its own types.

Main result: `properties_described`, which says what the properties of a class are from
the triples alone.
-/

namespace Ontogen

open Rdf (Graph Term Triple)
open Rdf.Vocabulary
open Data (OrderedMap)

/-! ## What rows tell -/

namespace PropertyRow

/-- The range of a row, if it is a URI. -/
def rangeUri (row : PropertyRow) : Option Uri := row.range.bind Term.uri?

/-- The text of the comment of a row. -/
def commentText (row : PropertyRow) : Option String := row.comment.map Term.text

/-- The type of a row, if it is a URI. -/
def typeUri (row : PropertyRow) : Option Uri := row.type.bind Term.uri?

end PropertyRow

/-- A draft keeps the first range and the first comment and collects the types. -/
theorem foldl_note (rows : List PropertyRow) (d : PropertyDraft) :
    rows.foldl PropertyDraft.note d = {
      range := d.range <|> rows.findSome? PropertyRow.rangeUri
      comment := d.comment <|> rows.findSome? PropertyRow.commentText
      types := d.types ++ rows.filterMap PropertyRow.typeUri } := by
  induction rows generalizing d with
  | nil => simp
  | cons row rows ih =>
    rw [List.foldl_cons, ih, PropertyDraft.mk.injEq]
    refine ⟨?_, ?_, ?_⟩
    · rw [List.findSome?_cons]
      show ((d.range <|> row.rangeUri) <|> _) = _
      cases d.range <;> cases row.rangeUri <;> rfl
    · rw [List.findSome?_cons]
      show ((d.comment <|> row.commentText) <|> _) = _
      cases d.comment <;> cases row.commentText <;> rfl
    · rw [List.filterMap_cons]
      show (d.types ++ row.typeUri.toList) ++ _ = _
      cases row.typeUri <;> simp

theorem foldl_note_empty (rows : List PropertyRow) :
    rows.foldl PropertyDraft.note {} = {
      range := rows.findSome? PropertyRow.rangeUri
      comment := rows.findSome? PropertyRow.commentText
      types := rows.filterMap PropertyRow.typeUri } :=
  foldl_note rows {}

/-- The rows of one property make one draft of it, from what was known before. -/
theorem foldl_noteRow_of_uri {uri : Uri} {rows : List PropertyRow} (hne : rows ≠ [])
    (h : ∀ row ∈ rows, row.property = .uri uri) (drafts : OrderedMap Uri PropertyDraft) :
    rows.foldl noteRow drafts
      = drafts.insert uri (rows.foldl PropertyDraft.note ((drafts.find? uri).getD {})) := by
  induction rows using List.reverseRecOn with
  | nil => exact absurd rfl hne
  | append_singleton rows row ih =>
    have hrow : row.property = .uri uri := h row (by simp)
    rw [List.foldl_append, List.foldl_append, List.foldl_cons, List.foldl_nil, List.foldl_cons,
      List.foldl_nil, noteRow, hrow]
    cases rows with
    | nil => rfl
    | cons first rest =>
      rw [ih (by simp) fun row' h' => h row' (List.mem_append_left _ h')]
      show OrderedMap.insert _ _ _ = _
      rw [OrderedMap.find?_insert, if_pos rfl, OrderedMap.insert_insert]
      rfl

/-- The rows of something that is no URI tell nothing. -/
theorem foldl_noteRow_of_uri?_eq_none {rows : List PropertyRow}
    (h : ∀ row ∈ rows, row.property.uri? = none) (drafts : OrderedMap Uri PropertyDraft) :
    rows.foldl noteRow drafts = drafts := by
  induction rows with
  | nil => rfl
  | cons row rows ih =>
    rw [List.foldl_cons, noteRow, h row (List.mem_cons_self ..)]
    exact ih fun row' h' => h row' (List.mem_cons_of_mem _ h')

/-! ## Combinations of details -/

section

variable {α β : Type} {xs : List α}

theorem orNone_ne_nil (xs : List α) : orNone xs ≠ [] := by
  cases xs with
  | nil => exact List.cons_ne_nil _ _
  | cons x xs => exact List.cons_ne_nil _ _

theorem some_mem_orNone {x : α} : some x ∈ orNone xs ↔ x ∈ xs := by
  cases xs with
  | nil => simp [orNone]
  | cons y ys => simp [orNone]

/-- An empty place has nothing, so the first that has something is a value. -/
theorem findSome?_orNone {f : α → Option β} {g : Option α → Option β} (hnone : g none = none)
    (hsome : ∀ x, g (some x) = f x) (xs : List α) : (orNone xs).findSome? g = xs.findSome? f := by
  cases xs with
  | nil => rw [orNone, List.findSome?_singleton, hnone, List.findSome?_nil]
  | cons x xs =>
    show ((x :: xs).map some).findSome? g = _
    rw [List.findSome?_map]
    exact congrArg (List.findSome? · (x :: xs)) (funext hsome)

end

/-- The rows for all combinations of some details. -/
def detailRows (property : Term) (ranges comments types : List Term) : List PropertyRow :=
  (orNone ranges).flatMap fun r =>
    (orNone comments).flatMap fun c => (orNone types).map fun t => ⟨property, r, c, t⟩

section

variable {property : Term} {ranges comments types : List Term} {row : PropertyRow}

theorem mem_detailRows :
    row ∈ detailRows property ranges comments types
      ↔ row.property = property ∧ row.range ∈ orNone ranges ∧ row.comment ∈ orNone comments
        ∧ row.type ∈ orNone types := by
  simp only [detailRows, List.mem_flatMap, List.mem_map]
  constructor
  · rintro ⟨r, hr, c, hc, t, ht, rfl⟩
    exact ⟨rfl, hr, hc, ht⟩
  · rintro ⟨rfl, hr, hc, ht⟩
    exact ⟨_, hr, _, hc, _, ht, rfl⟩

theorem exists_mem_detailRows {t : Option Term} (ht : t ∈ orNone types) :
    ∃ row ∈ detailRows property ranges comments types, row.type = t := by
  obtain ⟨r, hr⟩ := List.exists_mem_of_ne_nil _ (orNone_ne_nil ranges)
  obtain ⟨c, hc⟩ := List.exists_mem_of_ne_nil _ (orNone_ne_nil comments)
  exact ⟨⟨property, r, c, t⟩, mem_detailRows.mpr ⟨rfl, hr, hc, ht⟩, rfl⟩

theorem detailRows_ne_nil : detailRows property ranges comments types ≠ [] := by
  obtain ⟨t, ht⟩ := List.exists_mem_of_ne_nil _ (orNone_ne_nil types)
  obtain ⟨row, hrow, -⟩ := exists_mem_detailRows ht
  exact List.ne_nil_of_mem hrow

/-- The first row that has something is found detail by detail. -/
theorem findSome?_detailRows {β : Type} (f : PropertyRow → Option β) :
    (detailRows property ranges comments types).findSome? f
      = (orNone ranges).findSome? fun r => (orNone comments).findSome? fun c =>
          (orNone types).findSome? fun t => f ⟨property, r, c, t⟩ := by
  simp only [detailRows, Data.findSome?_flatMap, List.findSome?_map, Function.comp_def]

/-- The draft of a property knows the first of its ranges that is a URI and the first of
its comments. -/
theorem range_detailRows :
    (detailRows property ranges comments types).findSome? PropertyRow.rangeUri
      = ranges.findSome? Term.uri? := by
  rw [findSome?_detailRows]
  simp only [PropertyRow.rangeUri, Data.findSome?_const (orNone_ne_nil _)]
  exact findSome?_orNone rfl (fun _ => rfl) ranges

theorem comment_detailRows :
    (detailRows property ranges comments types).findSome? PropertyRow.commentText
      = comments.head?.map Term.text := by
  rw [findSome?_detailRows]
  simp only [PropertyRow.commentText, Data.findSome?_const (orNone_ne_nil _)]
  rw [findSome?_orNone (f := fun c => some c.text) rfl (fun _ => rfl)]
  cases comments <;> rfl

/-- Its types are all those of the property. -/
theorem mem_types_detailRows {uri : Uri} :
    uri ∈ (detailRows property ranges comments types).filterMap PropertyRow.typeUri
      ↔ .uri uri ∈ types := by
  rw [List.mem_filterMap]
  simp only [PropertyRow.typeUri, Option.bind_eq_some_iff, Term.uri?_eq_some_iff, exists_eq_right]
  constructor
  · rintro ⟨row, hrow, htype⟩
    have ht := (mem_detailRows.mp hrow).2.2.2
    rwa [htype, some_mem_orNone] at ht
  · intro h
    obtain ⟨row, hrow, htype⟩ := exists_mem_detailRows (some_mem_orNone.mpr h)
    exact ⟨row, hrow, htype⟩

end

/-! ## Kinds -/

theorem isPrefixOf_toList_iff {s t : String} :
    s.toList.isPrefixOf t.toList = true ↔ ∃ rest, t = s ++ rest := by
  rw [List.isPrefixOf_iff_prefix]
  constructor
  · rintro ⟨rest, hrest⟩
    refine ⟨.ofList rest, String.toList_inj.mp ?_⟩
    rw [String.toList_append, String.toList_ofList, hrest]
  · rintro ⟨rest, rfl⟩
    exact ⟨rest.toList, String.toList_append.symm⟩

namespace PropertyKind

variable {types types' : List Uri} {range : Option Uri}

/-- Of the types only the two declarations count for the kind of a property. -/
theorem of_congr (hobject : owlObjectProperty ∈ types ↔ owlObjectProperty ∈ types')
    (hdata : owlDatatypeProperty ∈ types ↔ owlDatatypeProperty ∈ types') :
    of types range = of types' range := by
  simp only [of, hobject, hdata]

theorem of_object (h : owlObjectProperty ∈ types) : of types range = .object := if_pos h

theorem of_data (hobject : owlObjectProperty ∉ types) (h : owlDatatypeProperty ∈ types) :
    of types range = .data :=
  (if_neg hobject).trans (if_pos h)

/-- Without a declaration a property is one of data when it has no range, or one that
is a datatype. -/
theorem of_eq_data_iff (hobject : owlObjectProperty ∉ types)
    (hdata : owlDatatypeProperty ∉ types) :
    of types range = .data
      ↔ range = none ∨ range = some rdfsLiteral ∨ ∃ name, range = some (xsd ++ name) := by
  unfold of
  rw [if_neg hobject, if_neg hdata]
  cases range with
  | none => exact iff_of_true rfl (.inl rfl)
  | some r =>
    simp only [Option.some.injEq, reduceCtorEq, false_or]
    rw [← isPrefixOf_toList_iff]
    split
    next h => exact iff_of_true rfl h
    next h => exact iff_of_false (fun hkind => PropertyKind.noConfusion hkind) h

end PropertyKind

/-! ## The properties of a class -/

namespace Rdf.Graph

variable {g : Graph} {c uri : Uri}

/-- The rows that a graph has for a thing. -/
def rowsAt (g : Graph) (p : Term) : List PropertyRow :=
  detailRows p (g.objects p (.uri rdfsRange)) (g.objects p (.uri rdfsComment))
    (g.objects p (.uri rdfType))

/-- The draft that the rows of a URI make. -/
def draftAt (g : Graph) (uri : Uri) : PropertyDraft :=
  (g.rowsAt (.uri uri)).foldl PropertyDraft.note {}

/-- The property that a graph has under a URI. -/
def propertyAt (g : Graph) (uri : Uri) : SchemaProperty where
  uri := uri
  kind := .of ((g.valuesOf uri rdfType).filterMap Term.uri?)
    ((g.valuesOf uri rdfsRange).findSome? Term.uri?)
  range := ((g.valuesOf uri rdfsRange).findSome? Term.uri?).map .uri
  comment := (g.valuesOf uri rdfsComment).head?.map Term.text

theorem property_draftAt (g : Graph) (uri : Uri) :
    (g.draftAt uri).property uri = g.propertyAt uri := by
  have htypes (t : Uri) :
      t ∈ (g.rowsAt (.uri uri)).filterMap PropertyRow.typeUri
        ↔ t ∈ (g.valuesOf uri rdfType).filterMap Term.uri? := by
    rw [rowsAt, mem_types_detailRows, objects_eq_valuesOf, mem_uris_valuesOf, uri_mem_valuesOf]
  have hrange : (g.rowsAt (.uri uri)).findSome? PropertyRow.rangeUri
      = (g.valuesOf uri rdfsRange).findSome? Term.uri? := by
    rw [rowsAt, range_detailRows, objects_eq_valuesOf]
  have hcomment : (g.rowsAt (.uri uri)).findSome? PropertyRow.commentText
      = (g.valuesOf uri rdfsComment).head?.map Term.text := by
    rw [rowsAt, comment_detailRows, objects_eq_valuesOf]
  rw [draftAt, foldl_note_empty, hrange, hcomment, PropertyDraft.property,
    PropertyKind.of_congr (htypes _) (htypes _), propertyAt]

/-- The rows of things, of which no URI comes twice, make a draft for every URI. -/
theorem foldl_noteRow_rowsAt (g : Graph) {things : List Term}
    (h : (things.filterMap Term.uri?).Nodup) :
    (things.flatMap g.rowsAt).foldl noteRow ∅
      = .ofList ((things.filterMap Term.uri?).map fun uri => (uri, g.draftAt uri)) := by
  induction things using List.reverseRecOn with
  | nil => rfl
  | append_singleton things t ih =>
    have hproperty : ∀ row ∈ g.rowsAt t, row.property = t := fun row hrow =>
      (mem_detailRows.mp hrow).1
    rw [List.filterMap_append, List.nodup_append] at h
    rw [List.flatMap_append, List.flatMap_singleton, List.foldl_append, ih h.1,
      List.filterMap_append]
    cases huri : t.uri? with
    | none =>
      rw [List.filterMap_cons_none huri, List.filterMap_nil, List.append_nil]
      refine foldl_noteRow_of_uri?_eq_none (fun row hrow => ?_) _
      rw [hproperty row hrow, huri]
    | some uri =>
      obtain rfl := Term.uri?_eq_some_iff.mp huri
      have hnew : uri ∉ things.filterMap Term.uri? := fun hmem =>
        h.2.2 uri hmem uri (by simp [Term.uri?]) rfl
      have hfind : (OrderedMap.ofList ((things.filterMap Term.uri?).map
          fun uri => (uri, g.draftAt uri))).find? uri = none := by
        rw [OrderedMap.find?_ofList_map, if_neg hnew]
      have hne : g.rowsAt (.uri uri) ≠ [] := detailRows_ne_nil
      rw [foldl_noteRow_of_uri hne hproperty, hfind,
        List.filterMap_cons_some huri, List.filterMap_nil, List.map_append, List.map_singleton,
        OrderedMap.ofList_concat]
      rfl

/-- The properties of a class are those of the URIs with that domain. -/
theorem propertiesOf_propertyRows (g : Graph) (c : Uri) :
    propertiesOf (g.propertyRows c) = (g.urisWith rdfsDomain c).map g.propertyAt := by
  have hnodup := g.nodup_urisWith rdfsDomain c
  rw [← filterMap_uri?_subjects] at hnodup ⊢
  rw [propertiesOf, show g.propertyRows c = (g.subjects _ _).flatMap g.rowsAt from rfl,
    g.foldl_noteRow_rowsAt hnodup, OrderedMap.entries_ofList_map,
    Data.eraseDups_of_nodup hnodup, List.map_map]
  exact List.map_congr_left fun uri _ => g.property_draftAt uri

/-- A URI has a type. -/
def HasType (g : Graph) (uri type : Uri) : Prop := ⟨.uri uri, .uri rdfType, .uri type⟩ ∈ g

/-- What the triples say of a property: its range is the first that is a URI, its
comment is the first one, and its kind is the one that it is declared with, objects
before data, or else the one that its range suggests. -/
structure Describes (g : Graph) (p : SchemaProperty) : Prop where
  range : p.range = (g.valuesOf p.uri rdfsRange).find? fun r => r.uri?.isSome
  comment : p.comment = (g.valuesOf p.uri rdfsComment).head?.map Term.text
  kind_object : g.HasType p.uri owlObjectProperty → p.kind = .object
  kind_data : ¬ g.HasType p.uri owlObjectProperty → g.HasType p.uri owlDatatypeProperty →
    p.kind = .data
  kind_by_range : ¬ g.HasType p.uri owlObjectProperty → ¬ g.HasType p.uri owlDatatypeProperty →
    (p.kind = .data ↔ p.range = none ∨ p.range = some (.uri rdfsLiteral)
      ∨ ∃ name, p.range = some (.uri (xsd ++ name)))

theorem map_uri_findSome?_uri? (ts : List Term) :
    (ts.findSome? Term.uri?).map .uri = ts.find? fun t => t.uri?.isSome := by
  induction ts with
  | nil => rfl
  | cons t ts ih => cases t with
    | uri u => rfl
    | blank b => exact ih
    | literal l => exact ih

theorem describes_propertyAt (g : Graph) (uri : Uri) : g.Describes (g.propertyAt uri) where
  range := map_uri_findSome?_uri? _
  comment := rfl
  kind_object h := PropertyKind.of_object (mem_uris_valuesOf.mpr h)
  kind_data hobject h :=
    PropertyKind.of_data (mt mem_uris_valuesOf.mp hobject) (mem_uris_valuesOf.mpr h)
  kind_by_range hobject hdata := by
    have hobject : owlObjectProperty ∉ (g.valuesOf uri rdfType).filterMap Term.uri? :=
      mt mem_uris_valuesOf.mp hobject
    have hdata : owlDatatypeProperty ∉ (g.valuesOf uri rdfType).filterMap Term.uri? :=
      mt mem_uris_valuesOf.mp hdata
    rw [propertyAt, PropertyKind.of_eq_data_iff hobject hdata]
    simp only [Option.map_eq_none_iff, Option.map_eq_some_iff, Term.uri.injEq, exists_eq_right]

end Rdf.Graph

/-- A class has one property for every URI that the triples give it as a domain of, in
the order of these triples, and each is as the triples describe it. -/
theorem properties_described (g : Graph) (c : Uri) :
    (propertiesOf (g.propertyRows c)).map SchemaProperty.uri = g.urisWith rdfsDomain c
      ∧ (g.urisWith rdfsDomain c).Nodup
      ∧ ∀ p ∈ propertiesOf (g.propertyRows c), g.Describes p := by
  rw [g.propertiesOf_propertyRows]
  refine ⟨?_, g.nodup_urisWith rdfsDomain c, ?_⟩
  · rw [List.map_map]
    exact List.map_id _
  · intro p hp
    obtain ⟨uri, -, rfl⟩ := List.mem_map.mp hp
    exact g.describes_propertyAt uri

namespace Kennel

def dog : Uri := "http://zoo/Dog"
def breed : Uri := "http://zoo/breed"
def owner : Uri := "http://zoo/owner"

/-- A node without a name that is said to be a property, a class and a range. -/
def nameless : Term := .blank ⟨1, "b"⟩

/-- What is said of dogs, with details of every kind before and after those that
count. -/
def graph : Graph where
  triples := [
    ⟨.uri dog, .uri rdfType, .uri rdfsClass⟩,
    ⟨.uri breed, .uri rdfType, .uri owlDatatypeProperty⟩,
    ⟨.uri breed, .uri rdfsRange, nameless⟩,
    ⟨.uri breed, .uri rdfsDomain, .uri dog⟩,
    ⟨nameless, .uri rdfsDomain, .uri dog⟩,
    ⟨.uri owner, .uri rdfsDomain, .uri dog⟩,
    ⟨.uri breed, .uri rdfsRange, .uri (xsd ++ "string")⟩,
    ⟨.uri breed, .uri rdfsRange, .uri dog⟩,
    ⟨.uri breed, .uri rdfsComment, .literal { text := "the kind of dog" }⟩,
    ⟨.uri breed, .uri rdfsComment, .literal { text := "Rasse", language := some "de" }⟩,
    ⟨.uri breed, .uri rdfType, .uri owlObjectProperty⟩,
    ⟨nameless, .uri rdfType, .uri owlClass⟩,
    ⟨.uri dog, .uri rdfType, .uri owlClass⟩,
    ⟨.uri dog, .uri rdfsComment, .literal { text := "Hund", language := some "de" }⟩,
    ⟨.uri dog, .uri rdfsComment, .literal { text := "a dog" }⟩,
    ⟨.uri dog, .uri rdfsSubClassOf, nameless⟩,
    ⟨.uri dog, .uri rdfsSubClassOf, .uri owlThing⟩]
  nodup := by decide +kernel

end Kennel

theorem kennel_properties_described :
    (propertiesOf (Kennel.graph.propertyRows Kennel.dog)).map SchemaProperty.uri
        = [Kennel.breed, Kennel.owner]
      ∧ ∃ p ∈ propertiesOf (Kennel.graph.propertyRows Kennel.dog),
          p.uri = Kennel.breed ∧ p.kind = .object ∧ p.range = some (.uri (xsd ++ "string"))
            ∧ p.comment = some "the kind of dog" := by
  obtain ⟨huris, -, hall⟩ := properties_described Kennel.graph Kennel.dog
  have horder : Kennel.graph.urisWith rdfsDomain Kennel.dog = [Kennel.breed, Kennel.owner] := by
    decide +kernel
  rw [horder] at huris
  refine ⟨huris, ?_⟩
  have hmem : Kennel.breed ∈ [Kennel.breed, Kennel.owner] := List.mem_cons_self ..
  rw [← huris] at hmem
  obtain ⟨p, hp, huri⟩ := List.mem_map.mp hmem
  obtain ⟨hrange, hcomment, hobject, -, -⟩ := hall p hp
  rw [huri] at hrange hcomment hobject
  refine ⟨p, hp, huri, hobject ?_, hrange.trans ?_, hcomment.trans ?_⟩
  · exact Graph.mem_of_mem_triples (by decide +kernel)
  · decide +kernel
  · decide +kernel

end Ontogen
