import Ontogen.Schema.Property

/-!
# Questions about a graph

The questions that a graph answers about its schema, as data, with their answers.
-/

namespace Ontogen

/-- A question about the schema in a graph. -/
inductive Query where
  /-- The subjects that are marked as classes of a kind. -/
  | classRows (marker : Uri)
  /-- The direct superclasses of a class. -/
  | superclasses (uri : Uri)
  /-- The properties of a class with their details. -/
  | propertyRows (uri : Uri)
  /-- The properties of a class as these rows describe them. -/
  | properties (uri : Uri)
  deriving DecidableEq, Repr

/-- The answer to a question. -/
inductive QueryAnswer where
  | classRows (rows : List ClassRow)
  | uris (uris : List Uri)
  | propertyRows (rows : List PropertyRow)
  | properties (properties : List SchemaProperty)
  deriving DecidableEq, Repr

/-- Answers a question from the triples of a graph. -/
def Rdf.Graph.answer (g : Rdf.Graph) : Query → QueryAnswer
  | .classRows marker => .classRows (g.classRows marker)
  | .superclasses uri => .uris (g.superclasses uri)
  | .propertyRows uri => .propertyRows (g.propertyRows uri)
  | .properties uri => .properties (propertiesOf (g.propertyRows uri))

end Ontogen
