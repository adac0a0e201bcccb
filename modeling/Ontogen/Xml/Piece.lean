import Ontogen.Text.Cut
import Ontogen.Text.Escape
import Ontogen.Xml.NameRanges

/-!
# The pieces of an XML text

Content is a row of pieces: tags, characters, sections of characters taken as they
stand, comments and instructions. An empty tag counts as an opening one with its
closing one. Each piece is read from the front of a text; how tags match is not looked
at here.
-/

namespace Ontogen.Xml

/-! ## Characters and names -/

/-- Whether XML has a character. -/
def isChar (c : Char) : Bool :=
  (' ' ≤ c || c == '\t' || c == '\n' || c == '\r') && c.toNat != 0xFFFE && c.toNat != 0xFFFF
    && (Text.half? c).isNone

/-- The characters that separate the parts of a tag. -/
def isBlank (c : Char) : Bool := c == ' ' || c == '\t' || c == '\n' || c == '\r'

/-- The characters that a name begins with. -/
def isNameStart (c : Char) : Bool :=
  c.isAlpha || c == '_' || Text.inRanges letterRanges c.toNat

/-- The characters of a name. -/
def isNameChar (c : Char) : Bool :=
  isNameStart c || c.isDigit || c == '-' || c == '.' || Text.inRanges markRanges c.toNat

/-- A name with the text before its colon; that is empty when there is no colon. -/
structure Name where
  space : List Char := []
  localPart : List Char
  deriving DecidableEq, Repr

/-- A name as it is written. -/
def Name.text (n : Name) : List Char :=
  if n.space = [] then n.localPart else n.space ++ ':' :: n.localPart

/-- The name without a colon at the front of a text. -/
def simpleName? (s : List Char) : Option (List Char × List Char) :=
  if (s.head?.map isNameStart).getD false then
    some (s.takeWhile isNameChar, s.dropWhile isNameChar)
  else none

/-- The name at the front of a text. -/
def name? (s : List Char) : Option (Name × List Char) := do
  let (first, rest) ← simpleName? s
  match rest with
  | ':' :: rest =>
    let (second, rest) ← simpleName? rest
    return (⟨first, second⟩, rest)
  | rest => return (⟨[], first⟩, rest)

/-! ## Pieces -/

/-- A property that a tag gives its element. -/
structure Attribute where
  name : Name
  value : List Char
  deriving DecidableEq, Repr

/-- A piece of content. -/
inductive Piece where
  | opening (name : Name) (attributes : List Attribute)
  | closing (name : Name)
  | text (content : List Char)
  /-- Characters that are taken as they stand. -/
  | verbatim (content : List Char)
  | comment (content : List Char)
  | instruction (target content : List Char)
  deriving DecidableEq, Repr

/-- What a reader of the front of a text finds one after another until the text is used
up. Each time it takes a character at least, so `fuel` need not be above the length. -/
def readAll {α : Type} (read? : List Char → Option (List α × List Char)) :
    Nat → List Char → Option (List α)
  | _, [] => some []
  | 0, _ => none
  | fuel + 1, s => do
    let (found, rest) ← read? s
    return found ++ (← readAll read? fuel rest)

/-- What is before the first place of a mark, and what is after the mark. -/
def cutAt? (mark : List Char) : List Char → Option (List Char × List Char)
  | [] => none
  | c :: s =>
    if mark.isPrefixOf (c :: s) then some ([], (c :: s).drop mark.length)
    else (cutAt? mark s).map fun p => (c :: p.1, p.2)

/-! ## References -/

/-- The characters that have a name of their own. -/
def namedChars : List (String × Char) :=
  [("lt", '<'), ("gt", '>'), ("amp", '&'), ("quot", '"'), ("apos", '\'')]

/-- The character of a code point that XML has. -/
def charOf? (n : Nat) : Option Char :=
  if n.isValidChar ∧ isChar (Char.ofNat n) then some (Char.ofNat n) else none

/-- The character that a reference stands for, from what is between its `&` and its
`;`. -/
def referred? : List Char → Option Char
  | '#' :: 'x' :: digits =>
    if digits ≠ [] ∧ digits.all Text.isHex then charOf? (Text.hexNumber digits) else none
  | '#' :: digits =>
    if digits ≠ [] ∧ digits.all Char.isDigit then charOf? (Nat.ofDigitChars 10 digits 0) else none
  | name => namedChars.lookup (String.ofList name)

/-- The character of the reference at the front of a text, from what is after its
`&`. -/
def reference? (s : List Char) : Option (Char × List Char) := do
  let (name, rest) ← Text.cutFirst ';' s
  return (← referred? name, rest)

/-! ## Tags -/

/-- The character at the front of the value of an attribute, where blanks are spaces. -/
def valueChar? : List Char → Option (List Char × List Char)
  | '&' :: s => (reference? s).map fun found => ([found.1], found.2)
  | '<' :: _ => none
  | c :: s => some ([if isBlank c then ' ' else c], s)
  | [] => none

/-- The attribute at the front of a text. -/
def attribute? (s : List Char) : Option (Attribute × List Char) := do
  let (name, rest) ← name? s
  match rest.dropWhile isBlank with
  | '=' :: rest =>
    match rest.dropWhile isBlank with
    | c :: rest =>
      if c ≠ '"' ∧ c ≠ '\'' then none
      else
        let (raw, rest) ← Text.cutFirst c rest
        return (⟨name, ← readAll valueChar? raw.length raw⟩, rest)
    | [] => none
  | _ => none

/-- The attributes at the front of a text, with blanks before each of them, and the text
after the blanks that follow the last one. -/
def attributes? : Nat → List Char → Option (List Attribute × List Char)
  | 0, _ => none
  | fuel + 1, s =>
    match s.dropWhile isBlank with
    | [] => none
    | c :: rest =>
      if c = '>' ∨ c = '/' then some ([], c :: rest)
      else if (s.head?.map isBlank).getD false then do
        let (first, rest) ← attribute? (c :: rest)
        let (others, rest) ← attributes? fuel rest
        return (first :: others, rest)
      else none

/-- An opening tag or an empty one, from what is after its angle bracket. -/
def opening? (s : List Char) : Option (List Piece × List Char) := do
  let (name, rest) ← name? s
  let (attributes, rest) ← attributes? (rest.length + 1) rest
  match rest with
  | '>' :: rest => return ([.opening name attributes], rest)
  | '/' :: '>' :: rest => return ([.opening name attributes, .closing name], rest)
  | _ => none

/-- A closing tag, from what is after its slash. -/
def closing? (s : List Char) : Option (List Piece × List Char) := do
  let (name, rest) ← name? s
  match rest.dropWhile isBlank with
  | '>' :: rest => return ([.closing name], rest)
  | _ => none

/-! ## Content -/

/-- An instruction, from what is after its question mark. No instruction is named
`xml`. -/
def instruction? (s : List Char) : Option (List Piece × List Char) := do
  let (target, rest) ← simpleName? s
  if target.map Char.toLower = "xml".toList then none
  else
    let (content, after) ← cutAt? "?>".toList rest
    if content = [] then return ([.instruction target []], after)
    else if (content.head?.map isBlank).getD false then
      return ([.instruction target (content.dropWhile isBlank)], after)
    else none

/-- A comment, from what is after its first two hyphens. The next two end it. -/
def comment? (s : List Char) : Option (List Piece × List Char) := do
  let (content, rest) ← cutAt? "--".toList s
  match rest with
  | '>' :: rest => return ([.comment content], rest)
  | _ => none

/-- A section of characters taken as they stand, from what is after its exclamation
mark. An empty one is nothing. -/
def verbatim? (s : List Char) : Option (List Piece × List Char) := do
  let mark := "[CDATA[".toList
  if mark.isPrefixOf s then
    let (content, rest) ← cutAt? "]]>".toList (s.drop mark.length)
    return (if content = [] then [] else [.verbatim content], rest)
  else none

/-- The piece at the front of a text. -/
def piece? : List Char → Option (List Piece × List Char)
  | '<' :: '!' :: '-' :: '-' :: s => comment? s
  | '<' :: '!' :: s => verbatim? s
  | '<' :: '?' :: s => instruction? s
  | '<' :: '/' :: s => closing? s
  | '<' :: s => opening? s
  | '&' :: s => (reference? s).map fun found => ([.text [found.1]], found.2)
  | ']' :: ']' :: '>' :: _ => none
  | c :: s => some ([.text [c]], s)
  | [] => none

/-- The text with a line feed for each end of line. -/
def unifyLines : List Char → List Char
  | '\r' :: '\n' :: s => '\n' :: unifyLines s
  | c :: s => (if c = '\r' then '\n' else c) :: unifyLines s
  | [] => []

/-- The pieces that a text consists of. -/
def pieces? (s : List Char) : Option (List Piece) :=
  let s := unifyLines s
  if s.all isChar then readAll piece? s.length s else none

end Ontogen.Xml
