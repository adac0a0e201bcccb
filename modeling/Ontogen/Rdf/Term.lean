import Ontogen.Text.Casing
import Ontogen.Uri.Name

/-!
# Terms and triples

The nodes of a graph are URIs, blank nodes and literals; a triple relates a
subject and an object by a predicate. The tag of a language keeps its letter case,
but tells no two terms apart by it: terms are the same when their folded forms
are equal.
-/

namespace Ontogen.Rdf

/-- A node without a name of its own. Its label tells it from the other nodes of
its scope; every document that is read has a scope of its own, and scope zero is
that of nodes which no document gave. -/
structure BlankNode where
  scope : Nat
  label : String
  deriving DecidableEq, Repr

/-- A text with the tag of its language or the URI of its datatype. -/
structure Literal where
  text : String
  language : Option String := none
  datatype : Option Uri := none
  deriving DecidableEq, Repr

/-- The literal with the tag of its language in lower case. -/
def Literal.folded (l : Literal) : Literal :=
  { l with language := l.language.map fun tag => String.ofList (Text.lowerAll tag.toList) }

/-- A node of a graph. -/
inductive Term where
  | uri (u : Uri)
  | blank (b : BlankNode)
  | literal (l : Literal)
  deriving DecidableEq, Repr

namespace Term

/-- The text of a term: the URI, the label or the text of the literal. -/
def text : Term → String
  | .uri u => u
  | .blank b => b.label
  | .literal l => l.text

/-- The URI that a term is, if it is one. -/
def uri? : Term → Option Uri
  | .uri u => some u
  | _ => none

/-- The term with the tag of its language in lower case. -/
def folded : Term → Term
  | .literal l => .literal l.folded
  | t => t

@[simp]
theorem folded_uri (u : Uri) : (Term.uri u).folded = .uri u := rfl

@[simp]
theorem folded_eq_uri_iff {t : Term} {u : Uri} : t.folded = .uri u ↔ t = .uri u := by
  cases t <;> simp [folded]

end Term

/-- A statement: a subject, a predicate and an object. -/
structure Triple where
  subject : Term
  predicate : Term
  object : Term
  deriving DecidableEq, Repr

/-- The triple of the folded forms. -/
def Triple.folded (t : Triple) : Triple :=
  ⟨t.subject.folded, t.predicate.folded, t.object.folded⟩

end Ontogen.Rdf
