import Ontogen.Proofs.Rdf.Additions
import Ontogen.Proofs.Session.Effects

/-!
# Documents that cannot be loaded

A document is read into the graph, and a fault is noticed only when its triples are there.
So a document that is no ontology leaves in the graph what it states before the fault, after
the triples from before. The generator and the workspace stay as they are.

Main result: `Session.loadDocument_failed`. The graph is the one from before only if it
had all that was stated. `cats_loaded_before_fault` is a graph that comes to have a class
from a document which could not be loaded.
-/

namespace Ontogen

open Rdf.Vocabulary

namespace Session

variable {s : Session} {path : String} {format : Option DocumentFormat}

/-! ## Documents with a fault -/

/-- Only a part without a value, or a text that does not follow the grammar of the Turtle that
was expected, makes a document no ontology. -/
theorem faultFailure_eq_ontology {fault : Rdf.Fault} {e : OntologyError}
    (h : faultFailure path format fault = .ontology e) :
    e.source = path ∧ (fault = .badValue ∨ fault = .malformed ∧ format = some .turtle) := by
  unfold faultFailure FaultReport.of at h
  cases fault with
  | badValue =>
    obtain rfl := Failure.ontology.inj h
    exact ⟨rfl, .inl rfl⟩
  | malformed =>
    cases format with
    | none => cases h
    | some f =>
      cases f with
      | nTriples => cases h
      | turtle =>
        obtain rfl := Failure.ontology.inj h
        exact ⟨rfl, .inr ⟨rfl, rfl⟩⟩
  | _ => cases h

/-- What a path leads to when nothing is there is told with the path. -/
theorem missingDocument_eq_ontology {e : OntologyError} (h : missingDocument path = .ontology e) :
    e.source = path := by
  unfold missingDocument at h
  split at h
  next =>
    obtain rfl := Failure.ontology.inj h
    rfl
  next =>
    dsimp only at h
    split at h
    next => cases h
    next =>
      split at h
      next => cases h
      next =>
        split at h
        next =>
          obtain rfl := Failure.ontology.inj h
          rfl
        next => split at h <;> cases h

theorem document?_eq_ontology {e : OntologyError}
    (h : s.workspace.document? path = .error (.ontology e)) : e.source = path := by
  unfold Workspace.document? at h
  split at h
  next => cases h
  next => exact missingDocument_eq_ontology (Except.error.inj h)
  next => cases h

/-- What the text of a document tells before the fault for which it is no ontology. In a
document of lines these are the triples of the lines before the one with the fault. -/
structure ToldBeforeFault (s : Session) (path : String) (format : Option DocumentFormat)
    (text : String) (triples : List Rdf.Triple) : Prop where
  reading : ∃ fault, s.reading path format text = ⟨triples, some fault⟩
    ∧ (fault = .badValue
      ∨ fault = .malformed ∧ (format <|> DocumentFormat.guess? path) = some .turtle)
  lines : (format <|> DocumentFormat.guess? path) = some .nTriples →
    ∃ front line back, ∃ found : List (Option Rdf.Triple),
      Rdf.NTriples.lines text.toList = front ++ line :: back
      ∧ front.map (Rdf.NTriples.lineTriple (s.documents + 1)) = found.map .ok
      ∧ Rdf.NTriples.lineTriple (s.documents + 1) line = .error .badValue
      ∧ triples = found.flatMap Option.toList

theorem toldBeforeFault {text : String} {triples : List Rdf.Triple} {fault : Rdf.Fault}
    {e : OntologyError} (hreading : s.reading path format text = ⟨triples, some fault⟩)
    (hfailure : faultFailure path (format <|> DocumentFormat.guess? path) fault = .ontology e) :
    s.ToldBeforeFault path format text triples := by
  obtain ⟨-, hfault⟩ := faultFailure_eq_ontology hfailure
  refine ⟨⟨fault, hreading, hfault⟩, fun hlines => ?_⟩
  rw [hlines] at hfault
  obtain rfl : fault = .badValue := hfault.resolve_right fun h => by cases h.2
  have hread : Rdf.NTriples.readLines (s.documents + 1) (Rdf.NTriples.lines text.toList)
      = ⟨triples, some .badValue⟩ := by
    rw [← hreading, reading, hlines]
    rfl
  obtain ⟨front, line, back, found, hls, hfound, hline, htriples⟩ :=
    Rdf.NTriples.readLines_fault (congrArg Rdf.Reading.fault hread)
  rw [hread] at htriples
  exact ⟨front, line, back, found, hls, hfound, hline, htriples⟩

/-- A load that comes to nothing because the document is no ontology changes nothing when no
text is found under the path. Otherwise the graph keeps its triples in their order, and
after them it has what the document tells before its fault and was not there. So the graph
stays as it is exactly when it has all of that. The generator and the workspace stay in any
case. -/
theorem loadDocument_failed {s' : Session} {e : OntologyError}
    (h : loadDocument path format s = (.error (.ontology e), s')) :
    e.source = path ∧ s'.generator = s.generator ∧ s'.workspace = s.workspace
      ∧ ((s.workspace.document? path = .error (.ontology e) ∧ s' = s)
        ∨ ∃ text triples new, s.workspace.document? path = .ok text
          ∧ s.ToldBeforeFault path format text triples
          ∧ s.graph.ExtendedBy triples s'.graph new
          ∧ (s'.graph = s.graph ↔ ∀ t ∈ triples, t ∈ s.graph)) := by
  cases hdocument : s.workspace.document? path with
  | error failure =>
    rw [loadDocument_of_missing hdocument] at h
    obtain ⟨hfailure, rfl⟩ := Prod.mk.inj h
    obtain rfl := Except.error.inj hfailure
    exact ⟨document?_eq_ontology hdocument, rfl, rfl, .inl ⟨rfl, rfl⟩⟩
  | ok text =>
    rcases hreading : s.reading path format text with ⟨triples, _ | fault⟩
    · rw [loadDocument_of_no_fault hdocument hreading] at h
      cases (Prod.mk.inj h).1
    · rw [loadDocument_of_fault hdocument hreading] at h
      obtain ⟨hfailure, rfl⟩ := Prod.mk.inj h
      have hontology := Except.error.inj hfailure
      obtain ⟨new, hnew⟩ := s.graph.extendedBy_addAll triples
      refine ⟨(faultFailure_eq_ontology hontology).1, rfl, rfl, .inr ?_⟩
      exact ⟨text, triples, new, rfl, toldBeforeFault hreading hontology, hnew,
        Rdf.Graph.addAll_eq_self_iff⟩

end Session

/-! ## Cats that come with a fault -/

namespace Cattery

def dog : Rdf.Triple := ⟨.uri "zoo:Dog", .uri rdfType, .uri owlClass⟩

def cat : Rdf.Triple := ⟨.uri "zoo:Cat", .uri rdfType, .uri owlClass⟩

def meal : Rdf.Triple := ⟨.uri "zoo:Cat", .uri "zoo:eats", .uri "zoo:Fish"⟩

/-- After the cats there is no Turtle. -/
def statements : String := "<zoo:Cat> a <http://www.w3.org/2002/07/owl#Class> .\noops"

/-- After the meal there is a number above all code points. -/
def facts : String :=
  "<zoo:Cat> <zoo:eats> <zoo:Fish> .\n<zoo:Cat> <zoo:mark> \"\\U00110000\" .\n"

/-- A session that knows the dogs. -/
def session : Session :=
  { Session.ofOptions {} with
    graph := Rdf.Graph.empty.addAll [dog]
    workspace := (({} : Workspace).give "cats.ttl" statements).give "cats.nt" facts }

theorem document_statements : session.workspace.document? "cats.ttl" = .ok statements := by
  decide +kernel

theorem reading_statements :
    session.reading "cats.ttl" none statements = ⟨[cat], some .malformed⟩ := by
  decide +kernel

theorem document_facts : session.workspace.document? "cats.nt" = .ok facts := by
  decide +kernel

theorem reading_facts : session.reading "cats.nt" none facts = ⟨[meal], some .badValue⟩ := by
  decide +kernel

end Cattery

/-- Of a document of lines the triple before the line with the fault is told. -/
theorem meal_told_before_fault :
    (∃ e s', Session.loadDocument "cats.nt" none Cattery.session = (.error (.ontology e), s'))
      ∧ Cattery.session.ToldBeforeFault "cats.nt" none Cattery.facts [Cattery.meal]
      ∧ ∃ new, Cattery.session.graph.ExtendedBy [Cattery.meal]
        (Session.loadDocument "cats.nt" none Cattery.session).2.graph new := by
  have hload := Session.loadDocument_of_fault Cattery.document_facts Cattery.reading_facts
  obtain ⟨-, -, -, hcases⟩ := Session.loadDocument_failed hload
  refine ⟨⟨_, _, hload⟩, ?_⟩
  rcases hcases with ⟨hmissing, -⟩ | ⟨text, triples, new, htext, htold, hnew, -⟩
  · rw [Cattery.document_facts] at hmissing
    cases hmissing
  · rw [Cattery.document_facts] at htext
    obtain rfl := Except.ok.inj htext
    obtain ⟨fault, hreading, -⟩ := htold.reading
    rw [Cattery.reading_facts] at hreading
    obtain ⟨rfl, -⟩ := Rdf.Reading.mk.inj hreading
    exact ⟨htold, new, by rw [hload]; exact hnew⟩

/-- A document that cannot be loaded leaves a class in the graph. -/
theorem cats_loaded_before_fault :
    (Session.loadDocument "cats.ttl" none Cattery.session).1
        = .error (.ontology ⟨"cats.ttl", "the text does not follow the grammar"⟩)
      ∧ Cattery.session.graph.triples = [Cattery.dog]
      ∧ (Session.loadDocument "cats.ttl" none Cattery.session).2.graph.triples
        = [Cattery.dog, Cattery.cat] := by
  rw [Session.loadDocument_of_fault Cattery.document_statements Cattery.reading_statements]
  refine ⟨?_, ?_, ?_⟩
  · decide +kernel
  · decide +kernel
  · decide +kernel

end Ontogen
