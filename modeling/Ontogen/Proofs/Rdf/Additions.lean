import Mathlib.Data.List.Induction
import Ontogen.Rdf.Graph
import Ontogen.Rdf.NTriples

/-!
# Adding what a document states

Triples are added one after the other, and one that is there already is passed over. So a
graph keeps its triples in their order, and after them come those that the document states
and the graph does not have, each at its first place.

Main results: `Graph.extendedBy_addAll`, `Graph.addAll_eq_self_iff`. Which triples a document
of lines states before a fault is `NTriples.readLines_fault`.
-/

namespace Ontogen.Rdf

/-! ## Adding triples -/

namespace Graph

variable {g : Graph} {ts : List Triple} {t : Triple}

theorem ext_triples {g g' : Graph} (h : g.triples = g'.triples) : g = g' := by
  cases g
  cases g'
  cases h
  rfl

theorem addAll_concat (g : Graph) (ts : List Triple) (t : Triple) :
    g.addAll (ts ++ [t]) = (g.addAll ts).add t := List.foldl_append

theorem mem_addAll : t ∈ g.addAll ts ↔ t ∈ g ∨ ∃ u ∈ ts, t.folded = u.folded := by
  induction ts using List.reverseRecOn with
  | nil => simp [addAll]
  | append_singleton ts u ih =>
    rw [addAll_concat, mem_add, ih]
    simp [or_and_right, exists_or, or_assoc]

/-- A triple is stated first at a place of a list: it is not in the graph, and nothing before
that place is the same triple. -/
def StatedFirst (g : Graph) (ts : List Triple) (t : Triple) : Prop :=
  t ∉ g ∧ ∃ front back, ts = front ++ t :: back ∧ ∀ u ∈ front, t.folded ≠ u.folded

/-- A graph has come from another by triples that were stated: after the triples of the
other are those that were stated first, in the order of the statements. -/
structure ExtendedBy (g : Graph) (ts : List Triple) (g' : Graph) (new : List Triple) :
    Prop where
  triples : g'.triples = g.triples ++ new
  order : new.Sublist ts
  mem_iff : ∀ t, t ∈ new ↔ g.StatedFirst ts t

theorem statedFirst_concat {u : Triple} :
    g.StatedFirst (ts ++ [u]) t ↔ g.StatedFirst ts t ∨ t = u ∧ t ∉ g.addAll ts := by
  unfold StatedFirst
  constructor
  · intro h
    obtain ⟨hgraph, front, back, hts, hfirst⟩ := h
    cases back using List.reverseRecOn with
    | nil =>
      obtain ⟨rfl, hlast⟩ := List.append_inj' hts rfl
      obtain rfl := (List.cons.inj hlast).1
      refine .inr ⟨rfl, fun hmem => ?_⟩
      rcases mem_addAll.mp hmem with hmem | ⟨v, hv, hsame⟩
      · exact hgraph hmem
      · exact hfirst v hv hsame
    | append_singleton back last =>
      rw [← List.cons_append, ← List.append_assoc] at hts
      exact .inl ⟨hgraph, front, back, (List.append_inj' hts rfl).1, hfirst⟩
  · intro h
    rcases h with ⟨hgraph, front, back, hts, hfirst⟩ | ⟨hlast, hnew⟩
    · refine ⟨hgraph, front, back ++ [u], ?_, hfirst⟩
      rw [hts, List.append_assoc, List.cons_append]
    · rw [mem_addAll, not_or] at hnew
      refine ⟨hnew.1, ts, [], by rw [hlast], fun v hv hsame => ?_⟩
      exact hnew.2 ⟨v, hv, hsame⟩

/-- Adding triples keeps those that are there in their order. -/
theorem extendedBy_addAll (g : Graph) (ts : List Triple) :
    ∃ new, g.ExtendedBy ts (g.addAll ts) new := by
  -- From the end of the list: whether the last triple is new depends on all before it.
  induction ts using List.reverseRecOn with
  | nil =>
    refine ⟨[], (List.append_nil _).symm, List.Sublist.slnil, fun t => ?_⟩
    simp [StatedFirst]
  | append_singleton ts u ih =>
    obtain ⟨new, htriples, horder, hmem⟩ := ih
    rw [addAll_concat]
    by_cases hu : u ∈ g.addAll ts
    · refine ⟨new, ?_, horder.trans (List.sublist_append_left _ _), fun t => ?_⟩
      · rw [triples_add, if_pos hu, htriples]
      · rw [statedFirst_concat, hmem]
        refine (or_iff_left fun h => ?_).symm
        rw [h.1] at h
        exact h.2 hu
    · refine ⟨new ++ [u], ?_, horder.append (List.Sublist.refl _), fun t => ?_⟩
      · rw [triples_add, if_neg hu, htriples, List.append_assoc]
      · rw [statedFirst_concat, List.mem_append, List.mem_singleton, hmem]
        refine or_congr_right (and_iff_left_of_imp fun h => ?_).symm
        rw [h]
        exact hu

/-- Nothing changes exactly when the graph has all the triples. -/
theorem addAll_eq_self_iff : g.addAll ts = g ↔ ∀ t ∈ ts, t ∈ g := by
  constructor
  · intro h t ht
    rw [← h, mem_addAll]
    exact .inr ⟨t, ht, rfl⟩
  · intro h
    obtain ⟨new, htriples, horder, hmem⟩ := extendedBy_addAll g ts
    have hnil : new = [] := by
      rw [List.eq_nil_iff_forall_not_mem]
      intro t ht
      exact ((hmem t).mp ht).1 (h t (horder.subset ht))
    rw [hnil, List.append_nil] at htriples
    exact ext_triples htriples

end Graph

/-! ## Documents of lines -/

namespace NTriples

/-- A document of lines with a fault is read up to the first line that has one. -/
theorem readLines_fault {scope : Nat} {fault : Fault} {ls : List (List Char)}
    (h : (readLines scope ls).fault = some fault) :
    ∃ front line back, ∃ found : List (Option Triple), ls = front ++ line :: back
      ∧ front.map (lineTriple scope) = found.map .ok
      ∧ lineTriple scope line = .error fault
      ∧ (readLines scope ls).triples = found.flatMap Option.toList := by
  induction ls with
  | nil => cases h
  | cons line ls ih =>
    cases hline : lineTriple scope line with
    | error fault' =>
      simp only [readLines, hline] at h ⊢
      obtain rfl := Option.some.inj h
      exact ⟨[], line, ls, [], rfl, rfl, hline, rfl⟩
    | ok t =>
      simp only [readLines, hline] at h ⊢
      obtain ⟨front, line', back, found, hls, hfound, hfault, htriples⟩ := ih h
      refine ⟨line :: front, line', back, t :: found, ?_, ?_, hfault, ?_⟩
      · rw [hls, List.cons_append]
      · rw [List.map_cons, List.map_cons, hline, hfound]
      · rw [htriples, List.flatMap_cons]

end NTriples

end Ontogen.Rdf
