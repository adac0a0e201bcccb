import Ontogen.Rdf.Reading
import Ontogen.Text.Blank
import Ontogen.Text.Cut

/-!
# N-Triples

A document of lines, each with one triple, a comment or nothing. A line that is
none of these ends the reading. Blank nodes with one label are one node within
the document, whose scope they have.
-/

namespace Ontogen.Rdf.NTriples

/-! ## Lines -/

/-- The lines of a text of which `line` is already read, last character first. -/
def linesFrom (line : List Char) : List Char → List (List Char)
  | [] => if line.all Text.isBlank then [] else [line.reverse]
  | '\r' :: '\n' :: s => line.reverse :: linesFrom [] s
  | c :: s =>
    if c = '\n' ∨ c = '\r' then line.reverse :: linesFrom [] s else linesFrom (c :: line) s

/-- The lines of a text. A line ends in a line feed, a carriage return or both;
what is after the last of these is a line unless it is blank. -/
def lines (s : List Char) : List (List Char) := linesFrom [] s

/-! ## Parts of a line -/

/-- Reads from the front of a line and leaves the rest of it. -/
abbrev LineReader := StateT (List Char) (Except Fault)

/-- The blanks between terms. -/
def isGap (c : Char) : Bool := c == ' ' || c == '\t'

/-- Passes over blanks. -/
def skipGap : LineReader Unit := modify (·.dropWhile isGap)

/-- Passes over one blank or more. -/
def gap : LineReader Unit := do
  match ← get with
  | c :: _ => if isGap c then skipGap else throw .malformed
  | [] => throw .malformed

/-- The character that an escape of one letter stands for. -/
def letterEscape? : Char → Option Char
  | 't' => some '\t'
  | 'b' => some '\x08'
  | 'n' => some '\n'
  | 'r' => some '\r'
  | 'f' => some '\x0c'
  | '"' => some '"'
  | '\'' => some '\''
  | '\\' => some '\\'
  | _ => none

/-- The escapes of a text: by a letter, or by the digits of a code point. -/
def escapeRule : Text.EscapeRule
  | '\\' :: c :: s =>
    match letterEscape? c with
    | some image => some (image.toNat, 1)
    | none =>
      Text.numericEscape 'u' 4 ('\\' :: c :: s) <|> Text.numericEscape 'U' 8 ('\\' :: c :: s)
  | _ => none

/-- The numbers of 31 bits are below this. -/
def numberLimit : Nat := 0x80000000

/-- The value of a text with escapes. A backslash that begins none stays. -/
def unescape (s : List Char) : Except Fault String :=
  match Text.replaceEscapes escapeRule s with
  | .ok text => .ok (String.ofList text)
  | .error n => .error (if n < numberLimit then .badValue else .hugeNumber)

/-- The characters of a URI after its first colon. -/
def isUriChar (c : Char) : Bool := !Text.isBlank c && c != '"' && c != '<' && c != '>'

/-- The characters of a URI between angle brackets, and the rest of the line. -/
def uriSpan? : List Char → Option (List Char × List Char)
  | '<' :: s =>
    match Text.cutFirst ':' s with
    | some ([], _) => none
    | some (front, s) =>
      match s.dropWhile isUriChar with
      | '>' :: rest => some (front ++ ':' :: s.takeWhile isUriChar, rest)
      | _ => none
    | none => none
  | _ => none

/-- A URI between angle brackets. -/
def uri : LineReader Uri := do
  match uriSpan? (← get) with
  | some (s, rest) =>
    set rest
    unescape s
  | none => throw .malformed

/-- The characters that a label may begin with. -/
def isLabelStart (c : Char) : Bool := c.isAlphanum || c == '_' || c == ':'

/-- The characters of a label. It does not end in a point, though. -/
def isLabelChar (c : Char) : Bool := isLabelStart c || c == '-' || c == '.'

/-- A blank node by its label. -/
def blankNode (scope : Nat) : LineReader BlankNode := do
  match ← get with
  | '_' :: ':' :: c :: s =>
    if isLabelStart c then
      let label := c :: Text.dropEnd '.' (s.takeWhile isLabelChar)
      set (s.drop (label.length - 1))
      return ⟨scope, String.ofList label⟩
    else throw .malformed
  | _ => throw .malformed

/-- The characters up to the next quote that no backslash is in front of, and the
text after that quote. `escaped` tells whether a backslash came just before. -/
def quotedSpan? (escaped : Bool) : List Char → Option (List Char × List Char)
  | [] => none
  | c :: s =>
    if c = '"' ∧ !escaped then some ([], s)
    else (quotedSpan? (c == '\\' && !escaped) s).map fun q => (c :: q.1, q.2)

/-- What follows the quotes of a literal. -/
inductive Suffix where
  | plain
  | language (tag : String)
  | datatype (uri : Uri)
  deriving DecidableEq, Repr

/-- The language tag or the datatype of a literal. What only begins like one is no
suffix, and is left. -/
def suffix : LineReader Suffix := do
  match ← get with
  | '@' :: s =>
    let tag := tagSpan Char.isAlpha s
    if tag.isEmpty then return .plain
    set (s.drop tag.length)
    return .language (String.ofList tag)
  | '^' :: '^' :: s =>
    if (uriSpan? s).isNone then return .plain
    set s
    return .datatype (← uri)
  | _ => return .plain

/-- A literal between quotes, with its language or datatype. -/
def literal : LineReader Literal := do
  match ← get with
  | '"' :: s =>
    match quotedSpan? false s with
    | some (raw, rest) =>
      set rest
      -- A fault in what follows the quotes comes before one between them.
      let mark ← suffix
      let text ← unescape raw
      match mark with
      | .plain => return { text }
      | .language tag => return { text, language := some tag }
      | .datatype uri => return .typed text uri
    | none => throw .malformed
  | _ => throw .malformed

/-! ## Triples -/

/-- The subject of a triple: a URI or a blank node. -/
def subject (scope : Nat) : LineReader Term := do
  match ← get with
  | '<' :: _ => return .uri (← uri)
  | _ => return .blank (← blankNode scope)

/-- The object of a triple: a URI, a blank node or a literal. -/
def object (scope : Nat) : LineReader Term := do
  match ← get with
  | '<' :: _ => return .uri (← uri)
  | '_' :: _ => return .blank (← blankNode scope)
  | _ => return .literal (← literal)

/-- The point after a triple, after which only a comment may stand. -/
def finish : LineReader Unit := do
  skipGap
  match ← get with
  | '.' :: s =>
    match s.dropWhile isGap with
    | [] => return ()
    | c :: _ => if c = '#' then return () else throw .malformed
  | _ => throw .malformed

/-- A triple with a point after it. -/
def triple (scope : Nat) : LineReader Triple := do
  let subject ← subject scope
  gap
  let predicate ← uri
  gap
  let object ← object scope
  finish
  return { subject, predicate := .uri predicate, object }

/-- The triple of a line, if it has one. -/
def lineTriple (scope : Nat) (line : List Char) : Except Fault (Option Triple) :=
  match line.dropWhile isGap with
  | [] => .ok none
  | c :: s => if c = '#' then .ok none else ((triple scope).run' (c :: s)).map some

/-- The triples of lines up to the first one with a fault. -/
def readLines (scope : Nat) : List (List Char) → Reading
  | [] => { triples := [] }
  | line :: rest =>
    match lineTriple scope line with
    | .error fault => { triples := [], fault := some fault }
    | .ok found =>
      let reading := readLines scope rest
      { reading with triples := found.toList ++ reading.triples }

/-- Reads a document whose blank nodes have the given scope. -/
def read (scope : Nat) (text : String) : Reading := readLines scope (lines text.toList)

end Ontogen.Rdf.NTriples
