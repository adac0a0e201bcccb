import Ontogen.Rdf.Term

/-!
# Graphs

A graph is a set of triples that remembers the order in which they came. It has
every triple once, in the spelling in which it came first: a triple is in the graph
when one with the same folded form is (`mem_add`, `mem_remove`). Patterns are
matched in the order of the triples (`mem_objects`, `mem_subjects`).
-/

namespace Ontogen.Rdf

/-- The triples of a graph in the order in which they came. -/
structure Graph where
  triples : List Triple
  nodup : (triples.map Triple.folded).Nodup

namespace Graph

/-- The graph without triples. -/
def empty : Graph := ⟨[], List.nodup_nil⟩

instance : EmptyCollection Graph := ⟨empty⟩

instance : Inhabited Graph := ⟨empty⟩

/-- The folded forms of the triples. -/
def forms (g : Graph) : List Triple := g.triples.map Triple.folded

/-- A triple is in a graph when its folded form is that of a triple there. -/
instance : Membership Triple Graph := ⟨fun g t => t.folded ∈ g.forms⟩

theorem mem_iff {g : Graph} {t : Triple} : t ∈ g ↔ t.folded ∈ g.forms := Iff.rfl

instance (g : Graph) (t : Triple) : Decidable (t ∈ g) := decidable_of_iff _ mem_iff.symm

/-- The number of triples. -/
def size (g : Graph) : Nat := g.triples.length

/-- Adds a triple at the end, if it is not there yet. -/
def add (g : Graph) (t : Triple) : Graph :=
  if h : t ∈ g then g
  else ⟨g.triples ++ [t], by
    rw [List.map_append, List.nodup_append]
    refine ⟨g.nodup, by simp, ?_⟩
    intro a ha b hb hab
    rw [List.map_singleton, List.mem_singleton] at hb
    exact h (mem_iff.mpr (hb ▸ hab ▸ ha))⟩

/-- Removes a triple. -/
def remove (g : Graph) (t : Triple) : Graph :=
  ⟨g.triples.filter fun u => !decide (u.folded = t.folded),
    g.nodup.sublist (List.filter_sublist.map Triple.folded)⟩

/-- Adds triples one after the other. -/
def addAll (g : Graph) (ts : List Triple) : Graph := ts.foldl add g

/-- Removes triples one after the other. -/
def removeAll (g : Graph) (ts : List Triple) : Graph := ts.foldl remove g

/-- The objects that a subject has for a predicate. -/
def objects (g : Graph) (s p : Term) : List Term :=
  g.triples.filterMap fun t =>
    if t.subject.folded = s.folded ∧ t.predicate.folded = p.folded then some t.object else none

/-- The subjects that have an object for a predicate. -/
def subjects (g : Graph) (p o : Term) : List Term :=
  g.triples.filterMap fun t =>
    if t.predicate.folded = p.folded ∧ t.object.folded = o.folded then some t.subject else none

theorem mem_add {g : Graph} {t u : Triple} : u ∈ g.add t ↔ u ∈ g ∨ u.folded = t.folded := by
  unfold add
  split
  · next h =>
    refine ⟨Or.inl, fun h' => h'.elim id fun e => ?_⟩
    rw [mem_iff, e]
    exact mem_iff.mp h
  · simp [mem_iff, forms]

theorem mem_remove {g : Graph} {t u : Triple} :
    u ∈ g.remove t ↔ u ∈ g ∧ u.folded ≠ t.folded := by
  simp only [mem_iff, forms, remove, List.mem_map, List.mem_filter]
  constructor
  · rintro ⟨v, ⟨hv, hne⟩, h⟩
    exact ⟨⟨v, hv, h⟩, fun e => by simp [h, e] at hne⟩
  · rintro ⟨⟨v, hv, h⟩, hne⟩
    exact ⟨v, ⟨hv, by simpa [h] using hne⟩, h⟩

/-- What is added is spelt as it came, and nothing else changes. -/
theorem triples_add {g : Graph} {t : Triple} :
    (g.add t).triples = if t ∈ g then g.triples else g.triples ++ [t] := by
  unfold add
  split <;> simp_all

/-- The objects of a URI for a URI are those of their triples. -/
theorem mem_objects {g : Graph} {s p : Uri} {o : Term} :
    o ∈ g.objects (.uri s) (.uri p) ↔ ⟨.uri s, .uri p, o⟩ ∈ g.triples := by
  simp only [objects, List.mem_filterMap, Term.folded_uri, Term.folded_eq_uri_iff]
  constructor
  · rintro ⟨t, ht, h⟩
    split at h
    · next hsp =>
      obtain rfl := Option.some.inj h
      rw [← hsp.1, ← hsp.2]
      exact ht
    · cases h
  · intro h
    exact ⟨_, h, by simp⟩

/-- The subjects that a URI relates to a URI are those of their triples. -/
theorem mem_subjects {g : Graph} {s : Term} {p o : Uri} :
    s ∈ g.subjects (.uri p) (.uri o) ↔ ⟨s, .uri p, .uri o⟩ ∈ g.triples := by
  simp only [subjects, List.mem_filterMap, Term.folded_uri, Term.folded_eq_uri_iff]
  constructor
  · rintro ⟨t, ht, h⟩
    split at h
    · next hpo =>
      obtain rfl := Option.some.inj h
      rw [← hpo.1, ← hpo.2]
      exact ht
    · cases h
  · intro h
    exact ⟨_, h, by simp⟩

end Graph

end Ontogen.Rdf
