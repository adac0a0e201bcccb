import Ontogen.Files.Path
import Ontogen.Rdf.NTriples
import Ontogen.Rdf.Turtle

/-!
# Ontology documents

The format of a document is told by the extension of its path. A document whose
format is not told is read as Turtle. How a fault is reported depends on this: it
is an ontology that cannot be loaded, or a text that is none at all.
-/

namespace Ontogen

open Rdf (Fault Reading)

/-- The formats that documents are read in. -/
inductive DocumentFormat where
  | nTriples
  | turtle
  deriving DecidableEq, Repr

namespace DocumentFormat

/-- The extension of a path, without its point: what follows the last point in the
name of the file. Points at the front of the name count only when the path begins
with one and the name has no other. -/
def extensionOf (path : List Char) : List Char :=
  let stem := (Text.afterLast '/' path).dropWhile (· == '.')
  if '.' ∈ stem then Text.afterLast '.' stem
  else if path.head? = some '.' then path.drop 1
  else []

/-- The format that an extension tells. -/
def ofExtension? (extension : String) : Option DocumentFormat :=
  if extension = "nt" then some .nTriples
  else if extension = "ttl" then some .turtle
  else none

/-- The format that a path tells, by its extension or by a name that is one. Letter
case is of no account. -/
def guess? (path : String) : Option DocumentFormat :=
  ofExtension? (String.ofList (Text.lowerAll (extensionOf path.toList)))
    <|> ofExtension? (String.ofList (Text.lowerAll path.toList))

/-- Reads a document in a format. -/
def read (scope : Nat) (text : String) : DocumentFormat → Reading
  | .nTriples => Rdf.NTriples.read scope text
  | .turtle => Rdf.Turtle.read scope text

end DocumentFormat

/-- A source that cannot be loaded. -/
structure OntologyError where
  source : String
  reason : String := ""
  deriving DecidableEq, Repr

/-- The text of the error. -/
def OntologyError.message (e : OntologyError) : String :=
  "Could not load ontology from " ++ e.source ++ ": " ++ e.reason

/-- What becomes of a fault. -/
inductive FaultReport where
  /-- The ontology cannot be loaded. -/
  | ontology (reason : String)
  /-- The text follows no grammar that was expected of it. -/
  | unreadable
  /-- The text is broken, whatever was expected of it. -/
  | broken
  deriving DecidableEq, Repr

/-- Reports a fault in a document of a format, or of one that was not told. Only
Turtle that was expected counts as an ontology when it is malformed. -/
def FaultReport.of (format : Option DocumentFormat) : Fault → FaultReport
  | .badValue => .ontology "a language tag, a number or a character does not exist"
  | .malformed =>
    match format with
    | some .turtle => .ontology "the text does not follow the grammar"
    | _ => .unreadable
  | .cutOff | .openText | .unbound | .badCodePoint | .hugeNumber | .tooDeep => .broken

example : DocumentFormat.guess? "a.b/c.NT" = some .nTriples := by decide +kernel
example : DocumentFormat.guess? "a.ttl/c" = none := by decide +kernel
example : DocumentFormat.guess? ".ttl" = some .turtle := by decide +kernel

end Ontogen
