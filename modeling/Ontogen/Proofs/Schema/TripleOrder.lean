import Ontogen.Proofs.Schema.Classes

/-!
# The order of triples

Loading goes through the triples in their order, and takes the last comment of a class,
the first comment and the first range of a property, and the types of a property as they
come. Where comments and ranges are single the order does not show: a list whose members
are all the same has the same first and the same last member in every order
(`head?_eq_of_mem_iff`, `getLast?_eq_of_mem_iff`), and of the types only the members
count. So graphs with the same triples give the same classes, and only the order of lists
may differ.

Main result: `loadClasses_perm`.
-/

namespace Ontogen

open Rdf (Graph Term Triple)
open Rdf.Vocabulary
open Data (OrderedMap)

/-! ## Lists whose members are all the same -/

section Single

variable {α : Type} {xs ys : List α}

theorem head?_eq_some_iff_mem (h : ∀ x ∈ xs, ∀ y ∈ xs, x = y) {x : α} :
    xs.head? = some x ↔ x ∈ xs := by
  constructor
  · exact List.mem_of_mem_head?
  · intro hx
    cases xs with
    | nil => cases hx
    | cons y xs =>
      rw [List.head?_cons, h y (List.mem_cons_self ..) x hx]

theorem head?_eq_of_mem_iff (h : ∀ x ∈ xs, ∀ y ∈ xs, x = y) (hmem : ∀ x, x ∈ xs ↔ x ∈ ys) :
    xs.head? = ys.head? := by
  have hys : ∀ x ∈ ys, ∀ y ∈ ys, x = y := fun x hx y hy =>
    h x ((hmem x).mpr hx) y ((hmem y).mpr hy)
  ext x
  rw [head?_eq_some_iff_mem h, head?_eq_some_iff_mem hys, hmem]

theorem getLast?_eq_of_mem_iff (h : ∀ x ∈ xs, ∀ y ∈ xs, x = y)
    (hmem : ∀ x, x ∈ xs ↔ x ∈ ys) : xs.getLast? = ys.getLast? := by
  rw [← List.head?_reverse, ← List.head?_reverse]
  refine head?_eq_of_mem_iff ?_ ?_
  · simpa only [List.mem_reverse] using h
  · simpa only [List.mem_reverse] using hmem

theorem eq_of_mem_of_length_le_one (h : xs.length ≤ 1) : ∀ x ∈ xs, ∀ y ∈ xs, x = y := by
  intro x hx y hy
  match xs, h with
  | [z], _ => rw [List.mem_singleton.mp hx, List.mem_singleton.mp hy]

end Single

/-! ## Graphs with the same triples -/

namespace Rdf.Graph

variable {g g' : Graph} {uri p : Uri} (hsame : ∀ t, t ∈ g ↔ t ∈ g')

include hsame

theorem mem_texts_valuesOf_iff (text : String) :
    text ∈ (g.valuesOf uri p).map Term.text ↔ text ∈ (g'.valuesOf uri p).map Term.text := by
  simp only [mem_texts_valuesOf, hsame]

theorem mem_uris_valuesOf_iff (o : Uri) :
    o ∈ (g.valuesOf uri p).filterMap Term.uri? ↔ o ∈ (g'.valuesOf uri p).filterMap Term.uri? := by
  simp only [mem_uris_valuesOf, hsame]

theorem urisWith_perm (p o : Uri) : (g.urisWith p o).Perm (g'.urisWith p o) := by
  rw [List.perm_ext_iff_of_nodup (g.nodup_urisWith p o) (g'.nodup_urisWith p o)]
  intro u
  rw [mem_urisWith, mem_urisWith, hsame]

theorem superclasses_perm (uri : Uri) :
    (g.classAt uri).superclasses.Perm (g'.classAt uri).superclasses := by
  refine (List.perm_ext_iff_of_nodup (g.nodup_uris_valuesOf uri rdfsSubClassOf)
    (g'.nodup_uris_valuesOf uri rdfsSubClassOf)).mpr ?_
  exact mem_uris_valuesOf_iff hsame

/-- The last of comments that are single. -/
theorem commentAt_eq (hcomment : (g.valuesOf uri rdfsComment).length ≤ 1) :
    g.commentAt uri = g'.commentAt uri := by
  rw [commentAt, commentAt, ← List.getLast?_map, ← List.getLast?_map]
  refine getLast?_eq_of_mem_iff (eq_of_mem_of_length_le_one ?_) (mem_texts_valuesOf_iff hsame)
  rwa [List.length_map]

/-- The first of comments and ranges that are single, and the declarations among the
types. -/
theorem propertyAt_eq (hcomment : (g.valuesOf uri rdfsComment).length ≤ 1)
    (hrange : ((g.valuesOf uri rdfsRange).filterMap Term.uri?).length ≤ 1) :
    g.propertyAt uri = g'.propertyAt uri := by
  refine propertyAt_congr (hsame _) (hsame _) ?_ ?_
  · rw [← List.head?_filterMap, ← List.head?_filterMap]
    exact head?_eq_of_mem_iff (eq_of_mem_of_length_le_one hrange) (mem_uris_valuesOf_iff hsame)
  · rw [← List.head?_map, ← List.head?_map]
    refine head?_eq_of_mem_iff (eq_of_mem_of_length_le_one ?_) (mem_texts_valuesOf_iff hsame)
    rwa [List.length_map]

theorem properties_perm (hcomment : ∀ s, (g.valuesOf s rdfsComment).length ≤ 1)
    (hrange : ∀ p ∈ g.urisWith rdfsDomain uri,
      ((g.valuesOf p rdfsRange).filterMap Term.uri?).length ≤ 1) :
    (g.classAt uri).properties.Perm (g'.classAt uri).properties := by
  have hmap : (g.urisWith rdfsDomain uri).map g.propertyAt
      = (g.urisWith rdfsDomain uri).map g'.propertyAt :=
    List.map_congr_left fun p hp => propertyAt_eq hsame (hcomment p) (hrange p hp)
  rw [classAt, classAt, hmap]
  exact (urisWith_perm hsame rdfsDomain uri).map g'.propertyAt

end Rdf.Graph

/-- Two graphs with the same triples, in which nothing has two comments and no property
has two URIs as its range, have the same classes: with the same comments, and with the
same superclasses and the same properties up to their order. -/
theorem loadClasses_perm {g g' : Graph} (hsame : ∀ t, t ∈ g ↔ t ∈ g')
    (hcomment : ∀ s, (g.valuesOf s rdfsComment).length ≤ 1)
    (hrange : ∀ c, ∀ p ∈ g.urisWith rdfsDomain c,
      ((g.valuesOf p rdfsRange).filterMap Term.uri?).length ≤ 1) :
    g.loadClasses.classes.keys.Perm g'.loadClasses.classes.keys
      ∧ ∀ uri c, g.loadClasses.classes.find? uri = some c →
        ∃ c', g'.loadClasses.classes.find? uri = some c'
          ∧ c.comment = c'.comment
          ∧ c.superclasses.Perm c'.superclasses
          ∧ c.properties.Perm c'.properties := by
  have hkeys : ∀ uri, uri ∈ g.loadClasses.classes.keys ↔ uri ∈ g'.loadClasses.classes.keys := by
    intro uri
    simp only [Graph.keys_loadClasses, List.mem_eraseDups, Graph.markedUris, List.mem_append,
      Graph.mem_urisWith, hsame]
  constructor
  · exact (List.perm_ext_iff_of_nodup g.loadClasses.classes.nodup_keys
      g'.loadClasses.classes.nodup_keys).mpr hkeys
  · intro uri c hc
    have hmem := (hkeys uri).mp (OrderedMap.mem_keys_iff.mpr ⟨c, hc⟩)
    obtain ⟨c', hc'⟩ := OrderedMap.mem_keys_iff.mp hmem
    obtain rfl := Graph.eq_classAt_of_find? hc
    obtain rfl := Graph.eq_classAt_of_find? hc'
    exact ⟨_, hc', Graph.commentAt_eq hsame (hcomment uri), Graph.superclasses_perm hsame uri,
      Graph.properties_perm hsame hcomment (hrange uri)⟩

namespace Kennel

def name : Uri := "http://zoo/name"

/-- What is said of dogs once: no comment and no range that is a URI comes twice. -/
def facts : List Triple := [
  ⟨.uri dog, .uri rdfType, .uri rdfsClass⟩,
  ⟨.uri dog, .uri rdfsComment, .literal { text := "Hund", language := some "de" }⟩,
  ⟨.uri dog, .uri rdfsSubClassOf, .uri owlThing⟩,
  ⟨.uri dog, .uri rdfsSubClassOf, nameless⟩,
  ⟨.uri dog, .uri rdfsSubClassOf, .uri rdfsResource⟩,
  ⟨.uri dog, .uri rdfType, .uri owlClass⟩,
  ⟨.uri owlThing, .uri rdfType, .uri owlClass⟩,
  ⟨.uri breed, .uri rdfType, .uri owlDatatypeProperty⟩,
  ⟨.uri breed, .uri rdfsDomain, .uri dog⟩,
  ⟨.uri breed, .uri rdfsRange, nameless⟩,
  ⟨.uri breed, .uri rdfsRange, .uri (xsd ++ "string")⟩,
  ⟨.uri breed, .uri rdfType, .uri owlObjectProperty⟩,
  ⟨.uri name, .uri rdfsComment, .literal { text := "what it answers to" }⟩,
  ⟨.uri name, .uri rdfsDomain, .uri dog⟩]

def forwards : Graph := ⟨facts, by decide +kernel⟩

def backwards : Graph := ⟨facts.reverse, by decide +kernel⟩

end Kennel

theorem kennel_loadClasses_perm :
    (∀ t, t ∈ Kennel.forwards ↔ t ∈ Kennel.backwards)
      ∧ (∀ s, (Kennel.forwards.valuesOf s rdfsComment).length ≤ 1)
      ∧ (∀ c, ∀ p ∈ Kennel.forwards.urisWith rdfsDomain c,
          ((Kennel.forwards.valuesOf p rdfsRange).filterMap Term.uri?).length ≤ 1)
      ∧ ∃ c c', Kennel.forwards.loadClasses.classes.find? Kennel.dog = some c
          ∧ Kennel.backwards.loadClasses.classes.find? Kennel.dog = some c'
          ∧ c.comment = c'.comment
          ∧ c.superclasses.Perm c'.superclasses
          ∧ c.properties.Perm c'.properties
          ∧ c.properties ≠ c'.properties := by
  have hsame : ∀ t, t ∈ Kennel.forwards ↔ t ∈ Kennel.backwards := by
    intro t
    rw [Graph.mem_iff, Graph.mem_iff]
    exact ((List.reverse_perm Kennel.facts).symm.map Triple.folded).mem_iff
  -- What is no subject of the facts has no values.
  have hsubjects : ∀ s p x, x ∈ Kennel.forwards.valuesOf s p →
      s ∈ Kennel.facts.filterMap fun t => t.subject.uri? := fun s p x hx =>
    List.mem_filterMap.mpr ⟨_, Graph.mem_valuesOf.mp hx, rfl⟩
  have hcomment : ∀ s, (Kennel.forwards.valuesOf s rdfsComment).length ≤ 1 := by
    have hall : ∀ s ∈ Kennel.facts.filterMap fun t => t.subject.uri?,
        (Kennel.forwards.valuesOf s rdfsComment).length ≤ 1 := by decide +kernel
    intro s
    cases hvalues : Kennel.forwards.valuesOf s rdfsComment with
    | nil => exact Nat.zero_le 1
    | cons x xs =>
      rw [← hvalues]
      exact hall s (hsubjects s _ x (hvalues ▸ List.mem_cons_self ..))
  have hrange : ∀ c, ∀ p ∈ Kennel.forwards.urisWith rdfsDomain c,
      ((Kennel.forwards.valuesOf p rdfsRange).filterMap Term.uri?).length ≤ 1 := by
    have hall : ∀ p ∈ Kennel.facts.filterMap fun t => t.subject.uri?,
        ((Kennel.forwards.valuesOf p rdfsRange).filterMap Term.uri?).length ≤ 1 := by
      decide +kernel
    intro c p hp
    exact hall p (hsubjects p _ _ (Graph.uri_mem_valuesOf.mpr (Graph.mem_urisWith.mp hp)))
  obtain ⟨-, hclasses⟩ := loadClasses_perm hsame hcomment hrange
  have hdog : Kennel.dog ∈ Kennel.forwards.loadClasses.classes.keys := by
    rw [Graph.keys_loadClasses]
    decide +kernel
  obtain ⟨c, hc⟩ := OrderedMap.mem_keys_iff.mp hdog
  obtain ⟨c', hc', hcomments, hsuperclasses, hproperties⟩ := hclasses _ c hc
  refine ⟨hsame, hcomment, hrange, c, c', hc, hc', hcomments, hsuperclasses, hproperties, ?_⟩
  obtain rfl := Graph.eq_classAt_of_find? hc
  obtain rfl := Graph.eq_classAt_of_find? hc'
  decide +kernel

end Ontogen
