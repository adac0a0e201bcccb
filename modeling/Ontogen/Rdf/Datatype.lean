import Ontogen.Calendar.Duration
import Ontogen.Rdf.Term
import Ontogen.Rdf.Vocabulary
import Ontogen.Text.Base64
import Ontogen.Text.Hex
import Ontogen.Xml.Fragment

/-!
# Datatypes

The texts of a datatype that stand for one value are brought to one form, so that
literals of equal values are equal. A text that stands for no value of its datatype
stays as it is, and so does every text of a datatype that is not known.
-/

namespace Ontogen.Rdf

/-- The forms that texts of datatypes are brought to. -/
inductive TextForm where
  /-- `true` or `false`. -/
  | truth
  /-- A whole number. -/
  | whole
  /-- A decimal without an exponent. -/
  | decimal
  /-- A double with the fewest digits. -/
  | double
  /-- A text in one line. -/
  | line
  /-- A text in one line with single spaces between its words. -/
  | words
  /-- Bytes, two hexadecimal digits each. -/
  | hexadecimal
  /-- Bytes, six bits a letter. -/
  | base64
  | date
  | time
  | dateTime
  | year
  | yearMonth
  | duration
  /-- An XML fragment. -/
  | fragment
  deriving DecidableEq, Repr

/-- The names of the XML Schema datatypes whose texts have a form of their own. -/
def namedForms : List (String × TextForm) :=
  [("boolean", .truth), ("integer", .whole), ("long", .whole), ("int", .whole),
   ("short", .whole), ("byte", .whole), ("unsignedLong", .whole), ("unsignedInt", .whole),
   ("unsignedShort", .whole), ("unsignedByte", .whole), ("nonNegativeInteger", .whole),
   ("nonPositiveInteger", .whole), ("positiveInteger", .whole), ("negativeInteger", .whole),
   ("decimal", .decimal), ("float", .double), ("double", .double),
   ("normalizedString", .line), ("token", .words), ("hexBinary", .hexadecimal),
   ("base64Binary", .base64), ("date", .date), ("time", .time), ("dateTime", .dateTime),
   ("gYear", .year), ("gYearMonth", .yearMonth), ("duration", .duration),
   ("dayTimeDuration", .duration), ("yearMonthDuration", .duration)]

/-- The form of the texts of a datatype, if they have one. -/
def TextForm.of? (datatype : Uri) : Option TextForm :=
  if datatype = Vocabulary.rdfXmlLiteral then some .fragment
  else (namedForms.map fun e => (Vocabulary.xsd ++ e.1, e.2)).lookup datatype

/-- The truth value that a text is read as: anything but a spelling of the true one is
false. -/
def truthText (s : List Char) : List Char :=
  let word := Text.lowerAll s
  if word = "true".toList ∨ word = "1".toList then "true".toList else "false".toList

/-- The text with a space in place of each tab and each end of line. -/
def lineText (s : List Char) : List Char :=
  s.map fun c => if c = '\t' ∨ c = '\n' ∨ c = '\r' then ' ' else c

/-- The text with one space for each run of spaces. -/
def singleSpaces : List Char → List Char
  | ' ' :: ' ' :: s => singleSpaces (' ' :: s)
  | c :: s => c :: singleSpaces s
  | [] => []

/-- Bytes in hexadecimal digits of lower case. -/
def hexadecimalText? (s : List Char) : Option (List Char) :=
  if s.length % 2 = 0 ∧ s.all Text.isHex then some (s.map Char.toLower) else none

/-- The form of a text that has one. -/
def TextForm.canonical? : TextForm → List Char → Option (List Char)
  | truth, s => some (truthText s)
  | whole, s => Decimal.canonicalWhole? s
  | decimal, s => Decimal.canonicalDecimal? s
  | double, s => Decimal.canonicalDouble? s
  | line, s => some (lineText s)
  | words, s => some (singleSpaces (Text.trim (lineText s)))
  | hexadecimal, s => hexadecimalText? s
  | base64, s => Text.Base64.canonical? s
  | date, s => Calendar.canonicalDate? s
  | time, s => Calendar.canonicalTime? s
  | dateTime, s => Calendar.canonicalDateTime? s
  | year, s => Calendar.canonicalYear? s
  | yearMonth, s => Calendar.canonicalYearMonth? s
  | duration, s => Calendar.canonicalDuration? s
  | fragment, s => Xml.canonical? s

/-- The form of a text of a datatype, the text itself when there is none. -/
def canonicalText (datatype : Uri) (text : String) : String :=
  match (TextForm.of? datatype).bind fun form => form.canonical? text.toList with
  | some form => String.ofList form
  | none => text

/-- A text with the URI of its datatype, in the form that the datatype asks for. -/
def Literal.typed (text : String) (datatype : Uri) : Literal where
  text := canonicalText datatype text
  datatype := some datatype

/-- The datatype stays, whatever the text. -/
theorem Literal.datatype_typed (text : String) (datatype : Uri) :
    (Literal.typed text datatype).datatype = some datatype := rfl

/-- A text of a datatype without a form is kept. -/
theorem Literal.text_typed_of_none {text : String} {datatype : Uri}
    (h : TextForm.of? datatype = none) : (Literal.typed text datatype).text = text := by
  simp [Literal.typed, canonicalText, h]

end Ontogen.Rdf
