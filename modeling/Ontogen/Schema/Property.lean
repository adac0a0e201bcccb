import Ontogen.Data.OrderedMap
import Ontogen.Schema.Rows
import Ontogen.Source.Identifier
import Ontogen.Text.Blank

/-!
# Properties

A property of a class becomes a field with a getter and a setter. Its rows may
be spread over the answer and mixed with those of other properties: the range is
the first URI among its ranges, the comment is the first one, and its kind is
decided by all its types and that range.
-/

namespace Ontogen

open Rdf (Term)
open Rdf.Vocabulary
open Data (OrderedMap)

/-- Whether the values of a property are data or things. -/
inductive PropertyKind where
  | data
  | object
  deriving DecidableEq, Repr

/-- A property of a class. -/
structure SchemaProperty where
  uri : Uri
  kind : PropertyKind := .data
  range : Option Term := none
  comment : Option String := none
  deriving DecidableEq, Repr

/-- The Java types of the XML Schema datatypes, by the names of these. -/
def datatypes : List (String × String) :=
  [("string", "String"), ("normalizedString", "String"), ("token", "String"),
   ("language", "String"), ("boolean", "Boolean"), ("decimal", "java.math.BigDecimal"),
   ("float", "Float"), ("double", "Double"), ("integer", "java.math.BigInteger"),
   ("nonPositiveInteger", "java.math.BigInteger"), ("negativeInteger", "java.math.BigInteger"),
   ("nonNegativeInteger", "java.math.BigInteger"), ("positiveInteger", "java.math.BigInteger"),
   ("long", "Long"), ("int", "Integer"), ("short", "Short"), ("byte", "Byte"),
   ("unsignedLong", "java.math.BigInteger"), ("unsignedInt", "Long"),
   ("unsignedShort", "Integer"), ("unsignedByte", "Short"), ("date", "java.util.Date"),
   ("dateTime", "java.util.Date"), ("time", "java.util.Date"), ("anyURI", "java.net.URI")]

/-- The Java type of a datatype; that of a text for one that is not known. -/
def datatypeOf (range : Term) : String :=
  ((datatypes.find? fun d => range = .uri (xsd ++ d.1)).map Prod.snd).getD "String"

namespace SchemaProperty

/-- The name of the field. -/
def name (p : SchemaProperty) : String := Source.identifier (Uri.localName p.uri)

/-- What follows `get` and `set` in the names of the accessors. -/
def suffix (p : SchemaProperty) : String := Source.upperFirst p.name

/-- The type of the field: that of the datatype, or the type that is generated
for the class of the values. Any value will do when that class says nothing. -/
def javaType (p : SchemaProperty) : String :=
  match p.kind, p.range with
  | .object, none => "Object"
  | .object, some r =>
    if r = .uri owlThing ∨ r = .uri rdfsResource then "Object" else Source.typeName r.text
  | .data, none => "String"
  | .data, some r => datatypeOf r

/-- What the field is documented with: the words of the comment, or the URI when
there is no comment. -/
def doc (p : SchemaProperty) : String :=
  match p.comment with
  | some comment =>
    if comment = "" then p.uri else String.ofList (Text.squeeze comment.toList)
  | none => p.uri

end SchemaProperty

/-! ## Reading the rows -/

/-- What the rows of a property have told so far. -/
structure PropertyDraft where
  range : Option Uri := none
  comment : Option String := none
  types : List Uri := []
  deriving DecidableEq, Repr

/-- Takes from a row what is not known yet, and its type. -/
def PropertyDraft.note (d : PropertyDraft) (row : PropertyRow) : PropertyDraft where
  range := d.range <|> row.range.bind Term.uri?
  comment := d.comment <|> row.comment.map Term.text
  types := d.types ++ (row.type.bind Term.uri?).toList

/-- The kind of a property: the one that it is declared with, or else the one
that its range suggests. -/
def PropertyKind.of (types : List Uri) (range : Option Uri) : PropertyKind :=
  if owlObjectProperty ∈ types then .object
  else if owlDatatypeProperty ∈ types then .data
  else
    match range with
    | none => .data
    | some r =>
      if r = rdfsLiteral ∨ xsd.toList.isPrefixOf r.toList then .data else .object

/-- The property that a draft describes. -/
def PropertyDraft.property (d : PropertyDraft) (uri : Uri) : SchemaProperty where
  uri := uri
  kind := .of d.types d.range
  range := d.range.map .uri
  comment := d.comment

/-- The drafts with one more row. A row whose property is no URI tells nothing. -/
def noteRow (drafts : OrderedMap Uri PropertyDraft) (row : PropertyRow) :
    OrderedMap Uri PropertyDraft :=
  match row.property.uri? with
  | some uri => drafts.insert uri (((drafts.find? uri).getD {}).note row)
  | none => drafts

/-- The properties that the rows describe, in the order of their first rows. -/
def propertiesOf (rows : List PropertyRow) : List SchemaProperty :=
  (rows.foldl noteRow ∅).entries.map fun e => e.2.property e.1

end Ontogen
