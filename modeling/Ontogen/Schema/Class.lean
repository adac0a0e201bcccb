import Ontogen.Schema.Property
import Ontogen.Text.Quoted

/-!
# Classes

The classes of a schema are the subjects marked as classes of OWL or of RDF
Schema. Both marks are asked for, in that order, and the last row of a subject
gives its comment; after that every class is asked once for its superclasses and
once for its properties.
-/

namespace Ontogen

open Rdf.Vocabulary
open Data (OrderedMap)

/-- A class with its direct superclasses and its own properties. -/
structure SchemaClass where
  uri : Uri
  comment : Option String := none
  superclasses : List Uri := []
  properties : List SchemaProperty := []
  deriving DecidableEq, Repr

namespace SchemaClass

/-- The name that the URI gives the class. -/
def name (c : SchemaClass) : String := Uri.localName c.uri

/-- A property in a description of its class. -/
def describeProperty (p : SchemaProperty) : String := p.javaType ++ " " ++ p.name

/-- A superclass in a description. -/
def describeUri (u : Uri) : String :=
  "rdflib.term.URIRef(" ++ String.ofList (Text.quoted u.toList) ++ ")"

/-- The class on a few lines: its name, its superclasses and its properties. -/
def describe (c : SchemaClass) : String :=
  "class " ++ c.name ++ " extends ["
    ++ String.intercalate ", " (c.superclasses.map describeUri) ++ "] \x7b\n\t["
    ++ String.intercalate ", " (c.properties.map describeProperty) ++ "]\n\x7d\n"

end SchemaClass

/-- The classes of a schema by their URIs. -/
abbrev ClassMap := OrderedMap Uri SchemaClass

/-- The types that mark a subject as a class, in the order of asking. -/
def classMarkers : List Uri := [owlClass, rdfsClass]

/-- Notes the comment of a row under its subject, over what was noted before. -/
def noteClass (comments : OrderedMap Uri (Option String)) (row : ClassRow) :
    OrderedMap Uri (Option String) :=
  match row.subject.uri? with
  | some uri => comments.insert uri (row.comment.map Rdf.Term.text)
  | none => comments

/-- The classes that a source knows, and how many rows each mark had. -/
structure ClassLoad where
  rowCounts : List (Uri × Nat)
  classes : ClassMap

/-- Asks a source for the details of one class. -/
def loadClass {m : Type → Type} [Monad m] (source : SchemaSource m) (uri : Uri)
    (comment : Option String) : m SchemaClass := do
  let superclasses ← source.superclasses uri
  let rows ← source.propertyRows uri
  return { uri, comment, superclasses, properties := propertiesOf rows }

/-- Asks a source for all its classes. -/
def loadClasses {m : Type → Type} [Monad m] (source : SchemaSource m) : m ClassLoad := do
  let rows ← classMarkers.mapM source.classRows
  -- A subject keeps the place of its first row and the comment of its last.
  let comments := rows.flatten.foldl noteClass ∅
  let classes ← comments.entries.mapM fun e => loadClass source e.1 e.2
  return {
    rowCounts := classMarkers.zip (rows.map List.length)
    classes := OrderedMap.ofList (classes.map fun c => (c.uri, c)) }

/-- The classes of a graph. -/
def Rdf.Graph.loadClasses (g : Rdf.Graph) : ClassLoad := Id.run (Ontogen.loadClasses g.source)

end Ontogen
