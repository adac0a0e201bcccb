import Ontogen.Rdf.Datatype
import Ontogen.Text.Escape

/-!
# Reading documents

A document gives its triples in the order in which they are stated, up to its end
or up to a fault; those before the fault are read all the same. The formats share
what they take for the tag of a language.
-/

namespace Ontogen.Rdf

/-- Why a document is not read to its end. -/
inductive Fault where
  /-- The text does not follow the grammar. -/
  | malformed
  /-- The text follows the grammar, but a part of it has no value: a language tag
  that begins with a digit, a number with too many digits, or a number above all code
  points. -/
  | badValue
  /-- The document ends where something has to follow. -/
  | cutOff
  /-- The document ends within a text. -/
  | openText
  /-- A variable stands where there is nothing to bind it. -/
  | unbound
  /-- A URI has an escape with a number above all code points. -/
  | badCodePoint
  /-- An escape has a number of more than 31 bits. -/
  | hugeNumber
  /-- Too many brackets are open. -/
  | tooDeep
  deriving DecidableEq, Repr

/-- The text of a fault. -/
def Fault.message : Fault → String
  | malformed => "the text does not follow the grammar"
  | badValue => "a part of the text has no value"
  | cutOff => "the text breaks off"
  | openText => "quotes are not closed"
  | unbound => "a variable has no value"
  | badCodePoint => "a character in a URI does not exist"
  | hugeNumber => "the number of a character is too large"
  | tooDeep => "brackets are nested too deeply"

/-- The triples of a document, and the fault that ended it if there was one. -/
structure Reading where
  triples : List Triple
  fault : Option Fault := none
  deriving DecidableEq, Repr

/-! ## Languages -/

/-- Whether a text is a language tag: parts with characters in them between hyphens,
letters in the first part, letters and digits in the others. -/
def isLanguageTag (tag : List Char) : Bool :=
  match tag.splitOn '-' with
  | [] => false
  | first :: others =>
    !first.isEmpty && first.all Char.isAlpha
      && others.all fun part => !part.isEmpty && part.all Char.isAlphanum

/-- The further parts of a language tag at the front of a text, each after a hyphen.
A hyphen with no part after it ends the tag. -/
def tagParts (inPart : Bool) : List Char → List Char
  | '-' :: c :: s => if c.isAlphanum then '-' :: c :: tagParts true s else []
  | c :: s => if inPart && c.isAlphanum then c :: tagParts true s else []
  | [] => []

/-- The tag at the front of a text: a part of the given characters, then the further
parts. It is empty when there is no first part. -/
def tagSpan (isFirst : Char → Bool) (s : List Char) : List Char :=
  let first := s.takeWhile isFirst
  if first.isEmpty then [] else first ++ tagParts false (s.drop first.length)

end Ontogen.Rdf
