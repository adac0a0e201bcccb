import Ontogen.Rdf.Reading
import Ontogen.Text.Cut

/-!
# Names in Turtle

What a document consists of apart from its literals: blanks and comments, keywords,
names with a colon and URIs. Each is read from the front of a text, from its first
character on; whether something of the kind is there is told apart from a fault in
it.
-/

namespace Ontogen.Rdf.Turtle

/-- What is found at the front of a text with the text after it, or nothing if there is
nothing of the kind. -/
abbrev Found (α : Type) := Except Fault (Option (α × List Char))

/-! ## Blanks and comments -/

/-- The text without the blanks and comments in front. A comment begins with `#`
and lasts to the end of its line. -/
def skipBlanks (inComment : Bool) : List Char → List Char
  | [] => []
  | '\r' :: '\n' :: s => skipBlanks false s
  | c :: s =>
    if c = '\n' then skipBlanks false s
    else if inComment then skipBlanks true s
    else if c = '#' then skipBlanks true s
    else if c = ' ' ∨ c = '\t' then skipBlanks false s
    else c :: s

/-! ## Keywords -/

/-- The characters that separate names. -/
def isSeparator (c : Char) : Bool :=
  "\t\r\n !\"#$&'()*,+/;<=>?@[\\]^`\x7b|\x7d~".toList.contains c

/-- The characters that end a keyword. -/
def endsKeyword (c : Char) : Bool := isSeparator c || c == '.'

/-- The text after a word at the front, if the word ends there. -/
def afterWord? (ends : Char → Bool) (word s : List Char) : Except Fault (Option (List Char)) :=
  if word.isPrefixOf s then
    match s.drop word.length with
    | [] => .error .cutOff
    | c :: rest => .ok (if ends c then some (c :: rest) else none)
  else .ok none

/-- The text after a keyword at the front, which an at sign may mark. -/
def afterKeyword? (word : String) : List Char → Except Fault (Option (List Char))
  | '@' :: s => afterWord? endsKeyword word.toList s
  | s => afterWord? endsKeyword word.toList s

/-- The text after a keyword at the front, which an at sign must mark. -/
def afterMarked? (word : String) : List Char → Except Fault (Option (List Char))
  | '@' :: s => afterWord? endsKeyword word.toList s
  | _ => .ok none

/-- The text after a keyword at the front that no at sign marks, in any letter case. -/
def afterCommand? (word : String) (s : List Char) : Except Fault (Option (List Char)) :=
  let front := (s.take word.length).map Char.toLower
  if front = word.toList then
    (afterWord? isSeparator (s.take word.length) s)
  else .ok none

/-- The text after what begins the declaration of a prefix with a point: an at sign and
a word of that length. Right before a colon any such word will do. -/
def afterPrefixMark? : List Char → Except Fault (Option (List Char))
  | '@' :: s =>
    let word := "prefix".toList
    match s.drop word.length with
    | [] => .error .cutOff
    | c :: rest =>
      .ok (if c = ':' ∨ (word.isPrefixOf s ∧ endsKeyword c) then some (c :: rest) else none)
  | _ => .ok none

/-! ## Names -/

/-- The characters of a name before its colon. -/
def isNameChar (c : Char) : Bool := !isSeparator c && c != ':'

/-- The characters that begin no name, because numbers begin with them. -/
def beginsNumber (c : Char) : Bool := c.isDigit || c == '-' || c == '+' || c == '.'

/-- The characters that a backslash puts into a name. -/
def isEscapable (c : Char) : Bool := "(_~.-!$&'()*+,;=/?#@%)".toList.contains c

/-- Checks that two hexadecimal digits are at the front of a text. -/
def checkPercent : List Char → Except Fault Unit
  | [] => .error .cutOff
  | c :: s =>
    if !Text.isHex c then .error .malformed
    else
      match s with
      | [] => .error .cutOff
      | d :: _ => if Text.isHex d then .ok () else .error .malformed

/-- The part of a name after its colon and the text after it. A percent sign needs
two hexadecimal digits. -/
def localSpan (isLocalChar : Char → Bool) : List Char → Except Fault (List Char × List Char)
  | [] => .ok ([], [])
  | '\\' :: c :: s =>
    if isEscapable c then (localSpan isLocalChar s).map fun p => (c :: p.1, p.2)
    else .error .malformed
  | c :: s =>
    if c = '\\' then .error .malformed
    else if !isLocalChar c then .ok ([], c :: s)
    else
      match if c = '%' then checkPercent s else .ok () with
      | .error fault => .error fault
      | .ok () => (localSpan isLocalChar s).map fun p => (c :: p.1, p.2)

/-- A name with a colon: what is before and after the colon. -/
structure Name where
  space : List Char
  localPart : List Char
  deriving DecidableEq, Repr

/-- What stands before the colon in the name of a blank node. -/
def blankSpace : List Char := ['_']

/-- A name from its parts and the text after it. A point that it would end in is left to
that text. -/
def finishName (space localPart rest : List Char) : Name × List Char :=
  if localPart.getLast? = some '.' then (⟨space, localPart.dropLast⟩, '.' :: rest)
  else (⟨space, localPart⟩, rest)

/-- A name at the front of a text. -/
def name? (s : List Char) : Found Name :=
  let space := s.takeWhile isNameChar
  match s.dropWhile isNameChar with
  | ':' :: rest =>
    if (s.head?.map beginsNumber).getD false ∨ space.getLast? = some '.' then .ok none
    else
      let isLocalChar := if space = blankSpace then isNameChar else fun c => !isSeparator c
      (localSpan isLocalChar rest).map fun p => some (finishName space p.1 p.2)
  | _ => .ok none

/-! ## URIs -/

/-- Whether a URI can stand alone: it has a colon, and no slash before that. -/
def isAbsolute (uri : List Char) : Bool :=
  (uri.takeWhile fun c => c != '/').contains ':'

/-- The URI between angle brackets, from what is after the opening one. Long escapes are
replaced before short ones. -/
def bracketedUri (s : List Char) : Except Fault (Uri × List Char) :=
  match Text.cutFirst '>' s with
  | none => .error .malformed
  | some (raw, rest) =>
    match Text.replaceEscapes (Text.numericEscape 'U' 8) raw
        >>= Text.replaceEscapes (Text.numericEscape 'u' 4) with
    | .error _ => .error .badCodePoint
    | .ok uri => if isAbsolute uri then .ok (String.ofList uri, rest) else .error .malformed

/-- The fault of a variable, from what is after its question mark. No variable can be
read, as nothing binds one. -/
def variableFault : List Char → Fault
  | [] => .cutOff
  | c :: _ => if c.isDigit || c == '-' then .malformed else .unbound

example : (name? "ex:a\\-b. ".toList).toOption
    = some (some (⟨"ex".toList, "a-b".toList⟩, ". ".toList)) := by decide +kernel
example : (name? "a.:b ".toList).toOption = some none := by decide +kernel

end Ontogen.Rdf.Turtle
