import Ontogen.Rdf.Graph
import Mathlib.Data.List.Nodup

/-!
# What the triples say of URIs

A question about a URI goes through the triples in their order. What is found for a
predicate of a URI are its values (`valuesOf`), and the URIs that a predicate relates to
a URI are those that bear it (`urisWith`). Neither has repetitions, as a graph has every
triple once.

URIs have one spelling and the text of a term does not depend on its spelling, so the
members of both lists can be told from which triples are in the graph, whatever their
order and spelling.
-/

namespace Ontogen.Rdf

/-! ## Folding -/

namespace Term

variable {t : Term} {u : Uri}

@[simp]
theorem text_folded : t.folded.text = t.text := by cases t <;> rfl

@[simp]
theorem uri?_eq_some_iff : t.uri? = some u ↔ t = .uri u := by cases t <;> simp [uri?]

end Term

namespace Graph

variable {g : Graph} {t : Triple} {s p o u : Uri}

theorem nodup_triples (g : Graph) : g.triples.Nodup := g.nodup.of_map Triple.folded

theorem mem_of_mem_triples (h : t ∈ g.triples) : t ∈ g := List.mem_map_of_mem h

/-- A statement about a URI is in a graph when it is there with some spelling of its
object. -/
theorem mem_iff_exists_object {x : Term} :
    (⟨.uri s, .uri p, x⟩ : Triple) ∈ g
      ↔ ∃ y, y.folded = x.folded ∧ ⟨.uri s, .uri p, y⟩ ∈ g.triples := by
  constructor
  · intro h
    obtain ⟨⟨s', p', y⟩, ht, hfolded⟩ := List.mem_map.mp h
    obtain ⟨hs, hp, hy⟩ := Triple.mk.inj hfolded
    obtain rfl : s' = .uri s := Term.folded_eq_uri_iff.mp hs
    obtain rfl : p' = .uri p := Term.folded_eq_uri_iff.mp hp
    exact ⟨y, hy, ht⟩
  · rintro ⟨y, hy, ht⟩
    have hfolded : Triple.folded ⟨.uri s, .uri p, y⟩ = Triple.folded ⟨.uri s, .uri p, x⟩ :=
      congrArg (Triple.mk _ _) hy
    rw [mem_iff, ← hfolded]
    exact mem_of_mem_triples ht

/-- A statement about URIs alone has one spelling. -/
theorem mem_triples_iff_of_uris :
    (⟨.uri s, .uri p, .uri o⟩ : Triple) ∈ g.triples ↔ ⟨.uri s, .uri p, .uri o⟩ ∈ g := by
  rw [mem_iff_exists_object]
  simp only [Term.folded_uri, Term.folded_eq_uri_iff, exists_eq_left]

/-! ## The values of a URI -/

/-- What the triples give for a predicate of a URI, in their order. -/
def valuesOf (g : Graph) (s p : Uri) : List Term :=
  g.triples.filterMap fun t =>
    if t.subject = .uri s ∧ t.predicate = .uri p then some t.object else none

theorem objects_eq_valuesOf (g : Graph) (s p : Uri) :
    g.objects (.uri s) (.uri p) = g.valuesOf s p := by
  simp only [objects, valuesOf, Term.folded_uri, Term.folded_eq_uri_iff]

theorem mem_valuesOf {x : Term} :
    x ∈ g.valuesOf s p ↔ ⟨.uri s, .uri p, x⟩ ∈ g.triples := by
  rw [← objects_eq_valuesOf, mem_objects]

theorem uri_mem_valuesOf : .uri o ∈ g.valuesOf s p ↔ ⟨.uri s, .uri p, .uri o⟩ ∈ g := by
  rw [mem_valuesOf, mem_triples_iff_of_uris]

theorem mem_uris_valuesOf :
    o ∈ (g.valuesOf s p).filterMap Term.uri? ↔ ⟨.uri s, .uri p, .uri o⟩ ∈ g := by
  simp only [List.mem_filterMap, Term.uri?_eq_some_iff, exists_eq_right, uri_mem_valuesOf]

/-- The texts of the values do not depend on their spelling. -/
theorem mem_texts_valuesOf {text : String} :
    text ∈ (g.valuesOf s p).map Term.text ↔ ∃ x, ⟨.uri s, .uri p, x⟩ ∈ g ∧ x.text = text := by
  simp only [List.mem_map, mem_valuesOf]
  constructor
  · rintro ⟨x, hx, htext⟩
    exact ⟨x, mem_of_mem_triples hx, htext⟩
  · rintro ⟨x, hx, htext⟩
    obtain ⟨y, hy, ht⟩ := mem_iff_exists_object.mp hx
    exact ⟨y, ht, by rw [← htext, ← Term.text_folded, hy, Term.text_folded]⟩

theorem valuesOf_eq_nil_iff :
    g.valuesOf s p = [] ↔ ∀ x, (⟨.uri s, .uri p, x⟩ : Triple) ∉ g := by
  rw [List.eq_nil_iff_forall_not_mem]
  constructor
  · intro h x hx
    obtain ⟨y, -, ht⟩ := mem_iff_exists_object.mp hx
    exact h y (mem_valuesOf.mpr ht)
  · intro h x hx
    exact h x (mem_of_mem_triples (mem_valuesOf.mp hx))

theorem nodup_valuesOf (g : Graph) (s p : Uri) : (g.valuesOf s p).Nodup := by
  refine g.nodup_triples.filterMap ?_
  rintro ⟨s₁, p₁, o₁⟩ ⟨s₂, p₂, o₂⟩ x h₁ h₂
  simp only [Option.mem_def, Option.ite_none_right_eq_some, Option.some.injEq] at h₁ h₂
  obtain ⟨⟨rfl, rfl⟩, rfl⟩ := h₁
  obtain ⟨⟨rfl, rfl⟩, rfl⟩ := h₂
  rfl

theorem nodup_uris_valuesOf (g : Graph) (s p : Uri) :
    ((g.valuesOf s p).filterMap Term.uri?).Nodup := by
  refine (g.nodup_valuesOf s p).filterMap ?_
  intro x y u hx hy
  rw [Term.uri?_eq_some_iff.mp hx, Term.uri?_eq_some_iff.mp hy]

/-! ## The URIs with a value -/

/-- The URIs that the triples relate by a predicate to a URI, in their order. -/
def urisWith (g : Graph) (p o : Uri) : List Uri :=
  g.triples.filterMap fun t =>
    if t.predicate = .uri p ∧ t.object = .uri o then t.subject.uri? else none

theorem filterMap_uri?_subjects (g : Graph) (p o : Uri) :
    (g.subjects (.uri p) (.uri o)).filterMap Term.uri? = g.urisWith p o := by
  rw [subjects, urisWith, List.filterMap_filterMap]
  refine congrArg (List.filterMap · g.triples) (funext fun t => ?_)
  simp only [Term.folded_uri, Term.folded_eq_uri_iff]
  split <;> rfl

theorem mem_urisWith : u ∈ g.urisWith p o ↔ ⟨.uri u, .uri p, .uri o⟩ ∈ g := by
  rw [← filterMap_uri?_subjects, List.mem_filterMap, ← mem_triples_iff_of_uris]
  simp only [Term.uri?_eq_some_iff, exists_eq_right, mem_subjects]

theorem nodup_urisWith (g : Graph) (p o : Uri) : (g.urisWith p o).Nodup := by
  refine g.nodup_triples.filterMap ?_
  rintro ⟨s₁, p₁, o₁⟩ ⟨s₂, p₂, o₂⟩ u h₁ h₂
  simp only [Option.mem_def, Option.ite_none_right_eq_some, Term.uri?_eq_some_iff] at h₁ h₂
  obtain ⟨⟨rfl, rfl⟩, rfl⟩ := h₁
  obtain ⟨⟨rfl, rfl⟩, rfl⟩ := h₂
  rfl

/-! ## One more triple -/

theorem valuesOf_add_of_ne (h : t.predicate ≠ .uri p) :
    (g.add t).valuesOf s p = g.valuesOf s p := by
  rw [valuesOf, triples_add]
  split
  · rfl
  · rw [List.filterMap_append]
    simp [valuesOf, h]

theorem urisWith_add_of_ne (h : ¬ (t.predicate = .uri p ∧ t.object = .uri o)) :
    (g.add t).urisWith p o = g.urisWith p o := by
  rw [urisWith, triples_add]
  split
  · rfl
  · rw [List.filterMap_append]
    simp [urisWith, h]

/-- A new triple puts its subject at the end of those with its value. -/
theorem urisWith_add {x : Term} (h : (⟨x, .uri p, .uri o⟩ : Triple) ∉ g) :
    (g.add ⟨x, .uri p, .uri o⟩).urisWith p o = g.urisWith p o ++ x.uri?.toList := by
  rw [urisWith, triples_add, if_neg h, List.filterMap_append]
  cases x <;> simp [urisWith, Term.uri?]

end Graph

end Ontogen.Rdf
