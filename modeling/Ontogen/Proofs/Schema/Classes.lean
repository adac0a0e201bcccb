import Ontogen.Proofs.Schema.Loading
import Ontogen.Proofs.Schema.Properties

/-!
# The classes that a graph has

Both marks are asked for, and a subject has a row for each of its comments under every
mark that it carries. Noting all these rows is noting each marked URI once, with the last
of its comments (`foldl_noteClass_classRows`). So the map that is loaded can be told from
the triples alone: its keys are the marked URIs, and under each is the class that the
triples describe (`entries_loadClasses`).

Main result: `classes_described`. A second mark changes nothing, since neither the
comments nor the details of a class depend on its marks.
-/

namespace Ontogen

open Rdf (Graph Term Triple)
open Rdf.Vocabulary
open Data (OrderedMap)

/-! ## Noting the comments of a subject -/

theorem exists_orNone_eq_concat {α : Type} (xs : List α) :
    ∃ os, orNone xs = os ++ [xs.getLast?] := by
  induction xs using List.reverseRecOn with
  | nil => exact ⟨[], rfl⟩
  | append_singleton xs x _ =>
    refine ⟨xs.map some, ?_⟩
    rw [List.getLast?_concat]
    cases xs with
    | nil => rfl
    | cons y ys =>
      rw [List.cons_append, orNone, ← List.cons_append, List.map_append]
      · rfl
      · exact List.cons_ne_nil _ _

/-- Of the rows of a URI the last one counts. -/
theorem foldl_noteClass_of_uri (uri : Uri) (os : List (Option Term)) (o : Option Term)
    (noted : OrderedMap Uri (Option String)) :
    ((os ++ [o]).map (ClassRow.mk (.uri uri))).foldl noteClass noted
      = noted.insert uri (o.map Term.text) := by
  induction os generalizing noted with
  | nil => rfl
  | cons o' os ih =>
    rw [List.cons_append, List.map_cons, List.foldl_cons, ih]
    exact OrderedMap.insert_insert noted uri _ _

theorem foldl_noteClass_of_uri?_eq_none {t : Term} (h : t.uri? = none)
    (os : List (Option Term)) (noted : OrderedMap Uri (Option String)) :
    (os.map (ClassRow.mk t)).foldl noteClass noted = noted := by
  induction os with
  | nil => rfl
  | cons o os ih =>
    rw [List.map_cons, List.foldl_cons, noteClass, h]
    exact ih

namespace Rdf.Graph

variable {g : Graph} {uri : Uri}

/-- The text of the last comment on a URI. -/
def commentAt (g : Graph) (uri : Uri) : Option String :=
  (g.valuesOf uri rdfsComment).getLast?.map Term.text

/-- The rows of a mark note every URI that carries it once. -/
theorem foldl_noteClass_classRows (g : Graph) (marker : Uri)
    (noted : OrderedMap Uri (Option String)) :
    (g.classRows marker).foldl noteClass noted
      = (g.urisWith rdfType marker).foldl (fun noted uri => noted.insert uri (g.commentAt uri))
          noted := by
  rw [classRows, List.foldl_flatMap, ← filterMap_uri?_subjects, List.foldl_filterMap]
  refine List.foldl_ext _ _ _ fun noted t _ => ?_
  cases huri : t.uri? with
  | none => exact foldl_noteClass_of_uri?_eq_none huri _ noted
  | some uri =>
    obtain rfl := Term.uri?_eq_some_iff.mp huri
    obtain ⟨os, hos⟩ := exists_orNone_eq_concat (g.objects (.uri uri) (.uri rdfsComment))
    rw [hos, objects_eq_valuesOf]
    exact foldl_noteClass_of_uri uri os _ noted

/-! ## The map that is loaded -/

/-- The URIs that are marked as classes, mark by mark. -/
def markedUris (g : Graph) : List Uri :=
  g.urisWith rdfType owlClass ++ g.urisWith rdfType rdfsClass

theorem comments_source (g : Graph) :
    g.source.comments = .ofList (g.markedUris.map fun uri => (uri, g.commentAt uri)) := by
  show (g.classRows owlClass ++ (g.classRows rdfsClass ++ [])).foldl noteClass ∅ = _
  rw [List.append_nil, List.foldl_append, foldl_noteClass_classRows, foldl_noteClass_classRows,
    ← List.foldl_append, OrderedMap.ofList, List.foldl_map]
  rfl

/-- The class that a graph has under a URI. -/
def classAt (g : Graph) (uri : Uri) : SchemaClass where
  uri := uri
  comment := g.commentAt uri
  superclasses := (g.valuesOf uri rdfsSubClassOf).filterMap Term.uri?
  properties := (g.urisWith rdfsDomain uri).map g.propertyAt

theorem describe_source (g : Graph) (uri : Uri) :
    g.source.describe uri (g.commentAt uri) = g.classAt uri := by
  rw [classAt, ← propertiesOf_propertyRows, ← objects_eq_valuesOf]
  rfl

/-- Every marked URI has its class, at the place where it is marked first. -/
theorem entries_loadClasses (g : Graph) :
    g.loadClasses.classes.entries = g.markedUris.eraseDups.map fun uri => (uri, g.classAt uri) := by
  have hclasses : g.loadClasses.classes = g.source.comments.mapValues g.source.describe :=
    g.source.loadClasses_classes
  rw [hclasses, comments_source]
  show (OrderedMap.entries _).map _ = _
  rw [OrderedMap.entries_ofList_map, List.map_map]
  exact List.map_congr_left fun uri _ => congrArg (Prod.mk uri) (g.describe_source uri)

theorem keys_loadClasses (g : Graph) :
    g.loadClasses.classes.keys = g.markedUris.eraseDups := by
  rw [OrderedMap.keys, entries_loadClasses, List.map_map]
  exact List.map_id _

theorem eq_classAt_of_find? {c : SchemaClass} (h : g.loadClasses.classes.find? uri = some c) :
    c = g.classAt uri := by
  rw [OrderedMap.find?_eq_some_iff, entries_loadClasses] at h
  obtain ⟨uri', -, heq⟩ := List.mem_map.mp h
  obtain ⟨rfl, rfl⟩ := Prod.mk.inj heq
  rfl

/-- The marked URIs without repetitions. -/
theorem eraseDups_markedUris (g : Graph) :
    g.markedUris.eraseDups = g.urisWith rdfType owlClass
      ++ (g.urisWith rdfType rdfsClass).filter fun uri =>
          !decide (uri ∈ g.urisWith rdfType owlClass) :=
  Data.eraseDups_append_of_nodup (g.nodup_urisWith _ _) (g.nodup_urisWith _ _)

/-! ## A second mark -/

theorem propertyAt_congr {g g' : Graph} {uri : Uri}
    (hobject : g.HasType uri owlObjectProperty ↔ g'.HasType uri owlObjectProperty)
    (hdata : g.HasType uri owlDatatypeProperty ↔ g'.HasType uri owlDatatypeProperty)
    (hrange : (g.valuesOf uri rdfsRange).findSome? Term.uri?
      = (g'.valuesOf uri rdfsRange).findSome? Term.uri?)
    (hcomment : (g.valuesOf uri rdfsComment).head?.map Term.text
      = (g'.valuesOf uri rdfsComment).head?.map Term.text) :
    g.propertyAt uri = g'.propertyAt uri := by
  have hobject' := mem_uris_valuesOf.trans (hobject.trans mem_uris_valuesOf.symm)
  have hdata' := mem_uris_valuesOf.trans (hdata.trans mem_uris_valuesOf.symm)
  rw [propertyAt, propertyAt, PropertyKind.of_congr hobject' hdata', hrange, hcomment]

section Mark

variable {s : Term} {marker : Uri}

theorem valuesOf_mark {p : Uri} (hp : p ≠ rdfType) :
    (g.add ⟨s, .uri rdfType, .uri marker⟩).valuesOf uri p = g.valuesOf uri p :=
  valuesOf_add_of_ne fun h => hp (Term.uri.inj h).symm

theorem hasType_mark {type : Uri} (htype : type ≠ marker) :
    (g.add ⟨s, .uri rdfType, .uri marker⟩).HasType uri type ↔ g.HasType uri type := by
  rw [HasType, mem_add]
  refine or_iff_left fun h => ?_
  exact htype (Term.uri.inj (Term.folded_eq_uri_iff.mp (Triple.mk.inj h).2.2))

/-- A mark is no detail of a class. -/
theorem classAt_mark (hobject : marker ≠ owlObjectProperty)
    (hdata : marker ≠ owlDatatypeProperty) :
    (g.add ⟨s, .uri rdfType, .uri marker⟩).classAt uri = g.classAt uri := by
  have hproperty (p : Uri) :
      (g.add ⟨s, .uri rdfType, .uri marker⟩).propertyAt p = g.propertyAt p := by
    refine propertyAt_congr (hasType_mark hobject.symm) (hasType_mark hdata.symm) ?_ ?_
    · rw [valuesOf_mark (by decide)]
    · rw [valuesOf_mark (by decide)]
  have hdomain : (g.add ⟨s, .uri rdfType, .uri marker⟩).urisWith rdfsDomain uri
      = g.urisWith rdfsDomain uri :=
    urisWith_add_of_ne fun h => absurd (Term.uri.inj h.1) (by decide)
  rw [classAt, classAt, commentAt, commentAt, hdomain, valuesOf_mark (by decide),
    valuesOf_mark (by decide), funext hproperty]

/-- What carries the first mark is at its place already. -/
theorem eraseDups_markedUris_mark (hs : (⟨s, .uri rdfType, .uri owlClass⟩ : Triple) ∈ g) :
    (g.add ⟨s, .uri rdfType, .uri rdfsClass⟩).markedUris.eraseDups = g.markedUris.eraseDups := by
  by_cases hmem : (⟨s, .uri rdfType, .uri rdfsClass⟩ : Triple) ∈ g
  · rw [add, dif_pos hmem]
  · have howl : (g.add ⟨s, .uri rdfType, .uri rdfsClass⟩).urisWith rdfType owlClass
        = g.urisWith rdfType owlClass :=
      urisWith_add_of_ne fun h => absurd (Term.uri.inj h.2) (by decide)
    rw [eraseDups_markedUris, eraseDups_markedUris, howl, urisWith_add hmem, List.filter_append]
    cases huri : s.uri? with
    | none => rw [Option.toList_none, List.filter_nil, List.append_nil]
    | some u =>
      obtain rfl := Term.uri?_eq_some_iff.mp huri
      have hu : u ∈ g.urisWith rdfType owlClass := mem_urisWith.mpr hs
      simp [hu]

end Mark

/-- What the triples say of a class: its comment is the last one, and its superclasses
are the URIs that it is said to be below, each once. -/
structure DescribesClass (g : Graph) (c : SchemaClass) : Prop where
  comment : c.comment = (g.valuesOf c.uri rdfsComment).getLast?.map Term.text
  comment_eq_none_iff : c.comment = none ↔ ∀ x, (⟨.uri c.uri, .uri rdfsComment, x⟩ : Triple) ∉ g
  superclasses : c.superclasses = (g.valuesOf c.uri rdfsSubClassOf).filterMap Term.uri?
  nodup_superclasses : c.superclasses.Nodup

theorem describesClass_classAt (g : Graph) (uri : Uri) : g.DescribesClass (g.classAt uri) where
  comment := rfl
  comment_eq_none_iff := by
    show (g.valuesOf uri rdfsComment).getLast?.map Term.text = none ↔ _
    rw [Option.map_eq_none_iff, List.getLast?_eq_none_iff, valuesOf_eq_nil_iff]
    rfl
  superclasses := rfl
  nodup_superclasses := g.nodup_uris_valuesOf uri rdfsSubClassOf

end Rdf.Graph

/-- The classes of a graph are those of the URIs with the first mark, in the order of
its triples, and then those of the other URIs with the second. Each is as the triples
describe it. A second mark on what has the first changes nothing. -/
theorem classes_described (g : Graph) :
    g.loadClasses.classes.keys = g.urisWith rdfType owlClass
        ++ (g.urisWith rdfType rdfsClass).filter (fun uri =>
            !decide (uri ∈ g.urisWith rdfType owlClass))
      ∧ (∀ uri, uri ∈ g.loadClasses.classes.keys
          ↔ g.HasType uri owlClass ∨ g.HasType uri rdfsClass)
      ∧ g.loadClasses.classes.keys.Nodup
      ∧ (∀ uri c, g.loadClasses.classes.find? uri = some c → c.uri = uri ∧ g.DescribesClass c)
      ∧ ∀ s, (⟨s, .uri rdfType, .uri owlClass⟩ : Triple) ∈ g →
          (g.add ⟨s, .uri rdfType, .uri rdfsClass⟩).loadClasses.classes
            = g.loadClasses.classes := by
  refine ⟨?_, ?_, g.loadClasses.classes.nodup_keys, ?_, ?_⟩
  · rw [g.keys_loadClasses, g.eraseDups_markedUris]
  · intro uri
    rw [g.keys_loadClasses, List.mem_eraseDups, Graph.markedUris, List.mem_append,
      Graph.mem_urisWith, Graph.mem_urisWith]
    rfl
  · intro uri c hc
    obtain rfl := Graph.eq_classAt_of_find? hc
    exact ⟨rfl, g.describesClass_classAt uri⟩
  · intro s hs
    refine OrderedMap.ext_entries ?_
    rw [Graph.entries_loadClasses, Graph.entries_loadClasses,
      Graph.eraseDups_markedUris_mark hs]
    exact List.map_congr_left fun uri _ =>
      congrArg (Prod.mk uri) (Graph.classAt_mark (by decide) (by decide))

theorem kennel_classes_described :
    Kennel.graph.loadClasses.classes.keys = [Kennel.dog]
      ∧ (∃ c, Kennel.graph.loadClasses.classes.find? Kennel.dog = some c
        ∧ c.comment = some "a dog" ∧ c.superclasses = [owlThing])
      ∧ (⟨Kennel.nameless, .uri rdfType, .uri owlClass⟩ : Triple) ∈ Kennel.graph
      ∧ (Kennel.graph.add ⟨Kennel.nameless, .uri rdfType, .uri rdfsClass⟩).loadClasses.classes
          = Kennel.graph.loadClasses.classes := by
  obtain ⟨hkeys, -, -, hclasses, hmark⟩ := classes_described Kennel.graph
  have hdog : Kennel.graph.loadClasses.classes.keys = [Kennel.dog] := by
    rw [hkeys]
    decide +kernel
  have hnameless : (⟨Kennel.nameless, .uri rdfType, .uri owlClass⟩ : Triple) ∈ Kennel.graph :=
    Graph.mem_of_mem_triples (by decide +kernel)
  refine ⟨hdog, ?_, hnameless, hmark _ hnameless⟩
  have hmem : Kennel.dog ∈ Kennel.graph.loadClasses.classes.keys := by
    rw [hdog]
    exact List.mem_cons_self ..
  obtain ⟨c, hc⟩ := OrderedMap.mem_keys_iff.mp hmem
  obtain ⟨huri, hcomment, -, hsuperclasses, -⟩ := hclasses _ c hc
  rw [huri] at hcomment hsuperclasses
  refine ⟨c, hc, hcomment.trans ?_, hsuperclasses.trans ?_⟩
  · decide +kernel
  · decide +kernel

end Ontogen
