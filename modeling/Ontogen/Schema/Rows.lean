import Ontogen.Rdf.Graph
import Ontogen.Rdf.Vocabulary

/-!
# What a schema is asked

The three questions about a schema, the rows that answer them, and the answers
that a graph gives. Every answer follows the order of the triples; a detail that
is missing leaves its place in the row empty, and details that occur several
times give a row for each of their combinations.
-/

namespace Ontogen

open Rdf (Term Triple)
open Rdf.Vocabulary

/-- A subject that is marked as a class, with one of its comments. -/
structure ClassRow where
  subject : Term
  comment : Option Term := none
  deriving DecidableEq, Repr

/-- A property of a class, with one of its ranges, comments and types. -/
structure PropertyRow where
  property : Term
  range : Option Term := none
  comment : Option Term := none
  type : Option Term := none
  deriving DecidableEq, Repr

/-- Something that answers questions about a schema, each with an effect in
`m`. -/
structure SchemaSource (m : Type → Type) where
  /-- The subjects marked as the given kind of class. -/
  classRows : Uri → m (List ClassRow)
  /-- The direct superclasses of a class that are URIs. -/
  superclasses : Uri → m (List Uri)
  /-- The properties whose domain is the given class. -/
  propertyRows : Uri → m (List PropertyRow)

/-- The values themselves, or the empty place when there is none. -/
def orNone {α : Type} : List α → List (Option α)
  | [] => [none]
  | xs => xs.map some

namespace Rdf.Graph

/-- The subjects of a type, each with all its comments. -/
def classRows (g : Graph) (marker : Uri) : List ClassRow :=
  (g.subjects (.uri rdfType) (.uri marker)).flatMap fun s =>
    (orNone (g.objects s (.uri rdfsComment))).map fun c => ⟨s, c⟩

/-- The superclasses of a class that are URIs. -/
def superclasses (g : Graph) (uri : Uri) : List Uri :=
  (g.objects (.uri uri) (.uri rdfsSubClassOf)).filterMap Term.uri?

/-- The properties of a domain, each with all combinations of its details. -/
def propertyRows (g : Graph) (uri : Uri) : List PropertyRow :=
  (g.subjects (.uri rdfsDomain) (.uri uri)).flatMap fun p =>
    (orNone (g.objects p (.uri rdfsRange))).flatMap fun r =>
      (orNone (g.objects p (.uri rdfsComment))).flatMap fun c =>
        (orNone (g.objects p (.uri rdfType))).map fun t => ⟨p, r, c, t⟩

/-- A graph as a source of answers without effect. -/
def source (g : Graph) : SchemaSource Id where
  classRows marker := g.classRows marker
  superclasses uri := g.superclasses uri
  propertyRows uri := g.propertyRows uri

/-- The superclasses are the objects of `rdfs:subClassOf` that are URIs. -/
theorem mem_superclasses {g : Graph} {uri s : Uri} :
    s ∈ g.superclasses uri ↔ ⟨.uri uri, .uri rdfsSubClassOf, .uri s⟩ ∈ g.triples := by
  rw [superclasses, List.mem_filterMap]
  constructor
  · rintro ⟨o, ho, hs⟩
    cases o with
    | uri u =>
      obtain rfl := Option.some.inj hs
      exact mem_objects.mp ho
    | blank b => cases hs
    | literal l => cases hs
  · intro h
    exact ⟨.uri s, mem_objects.mpr h, rfl⟩

end Rdf.Graph

end Ontogen
