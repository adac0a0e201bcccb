import Ontogen.Rdf.Turtle.Name

/-!
# Literals in Turtle

Texts between quotes and numbers, from their first character on. A text may have
escapes; between three quotes it may have ends of lines and quotes of its own. What
follows the quotes is not read here.
-/

namespace Ontogen.Rdf.Turtle

open Vocabulary

/-! ## Texts -/

/-- The character that an escape of one letter stands for. -/
def letterEscape? : Char → Option Char
  | 'a' => some '\x07'
  | 'b' => some '\x08'
  | 'f' => some '\x0c'
  | 'r' => some '\r'
  | 't' => some '\t'
  | 'v' => some '\x0b'
  | 'n' => some '\n'
  | '\\' => some '\\'
  | '"' => some '"'
  | '\'' => some '\''
  | _ => none

/-- The number of digits of an escape by number. -/
def digitCount? : Char → Option Nat
  | 'u' => some 4
  | 'U' => some 8
  | _ => none

/-- The code points that an escape stands for, from what is after its backslash, and
the number of its characters after the backslash. An escape by number whose digits are
none stands for itself. -/
def textEscape : List Char → Except Fault (List Nat × Nat)
  | [] => .error .cutOff
  | c :: s =>
    match letterEscape? c, digitCount? c with
    | some image, _ => .ok ([image.toNat], 1)
    | none, none => .error .malformed
    | none, some count =>
      let digits := s.take count
      if digits.length < count then .error .malformed
      else if digits.all Text.isHex then
        let n := Text.hexNumber digits
        if n ≤ Text.lastCodePoint then .ok ([n], count + 1) else .error .malformed
      else .ok (('\\' :: c :: digits).map Char.toNat, count + 1)

/-- The characters that have a part in the form of a text. -/
def isSpecial (c : Char) : Bool := c == '"' || c == '\'' || c == '\\' || c == '\n' || c == '\r'

/-- The code points of a text up to the quotes that end it, and what is after them.
Between single quotes there is no end of line. Three quotes end a long text, and up to
two more before them belong to it. `afterPlain` tells whether the character before was
one without a part in the form of the text: a document that ends there ends within the
text. The number counts the characters that belong to an escape already read. -/
def textSpan (quote : Char) (long afterPlain : Bool) : Nat → List Char →
    Except Fault (List Nat × List Char)
  | _, [] => .error (if afterPlain then .openText else .malformed)
  | skip + 1, _ :: s => textSpan quote long false skip s
  | 0, c :: s =>
    let quotes := (((c :: s).take 5).takeWhile (· == quote)).length
    if quotes != 0 && !long then .ok ([], s)
    else if 3 ≤ quotes then
      .ok (List.replicate (quotes - 3) quote.toNat, (c :: s).drop quotes)
    else if c = '\\' then
      match textEscape s with
      | .error fault => .error fault
      | .ok (image, more) => (textSpan quote long false more s).map fun p => (image ++ p.1, p.2)
    else if !long && (c == '\n' || c == '\r') then .error .malformed
    else (textSpan quote long (!isSpecial c) 0 s).map fun p => (c.toNat :: p.1, p.2)

/-- A text between quotes at the front of a text. -/
def quoted? : List Char → Found String
  | c :: s =>
    if c = '"' ∨ c = '\'' then
      let long := s.take 2 == [c, c]
      (textSpan c long false 0 (if long then s.drop 2 else s)).map fun p =>
        some (String.ofList (p.1.map Text.ofCodePoint), p.2)
    else .ok none
  | [] => .ok none

/-! ## Numbers -/

/-- A number as it stands in a document, with its datatype. -/
structure Number where
  text : List Char
  datatype : Uri
  deriving DecidableEq, Repr

/-- The sign at the front of a text and the text after it. -/
def signText : List Char → List Char × List Char
  | '-' :: s => (['-'], s)
  | '+' :: s => (['+'], s)
  | s => ([], s)

/-- The exponent at the front of a text and the text after it. -/
def exponentText? : List Char → Option (List Char × List Char)
  | c :: s =>
    let (sign, s) := signText s
    let digits := s.takeWhile Char.isDigit
    if (c = 'e' ∨ c = 'E') ∧ digits ≠ [] then
      some (c :: sign ++ digits, s.dropWhile Char.isDigit)
    else none
  | [] => none

/-- A number at the front of a text: a double with its exponent, a decimal with digits
after its point, or an integer. -/
def number? (s : List Char) : Option (Number × List Char) :=
  let (sign, s) := signText s
  let whole := s.takeWhile Char.isDigit
  let afterWhole := s.dropWhile Char.isDigit
  let (part, afterPart) := match afterWhole with
    | '.' :: s => ('.' :: s.takeWhile Char.isDigit, s.dropWhile Char.isDigit)
    | s => ([], s)
  let hasDigits := !whole.isEmpty || 1 < part.length
  match if hasDigits then exponentText? afterPart else none with
  | some (exponent, rest) => some (⟨sign ++ whole ++ part ++ exponent, xsdDouble⟩, rest)
  | none =>
    if 1 < part.length then some (⟨sign ++ whole ++ part, xsdDecimal⟩, afterPart)
    else if !whole.isEmpty then some (⟨sign ++ whole, xsdInteger⟩, afterWhole)
    else none

/-- The literal of a number. An integer with too many digits has no value. -/
def Number.literal (n : Number) : Except Fault Literal :=
  if n.datatype = xsdInteger ∧ Decimal.wholeDigitLimit < (signText n.text).2.length then
    .error .badValue
  else .ok (.typed (String.ofList n.text) n.datatype)

/-- The truth value that a keyword at the front of a text stands for. -/
def truth? (s : List Char) : Found Literal :=
  match afterKeyword? "true" s with
  | .ok none =>
    (afterKeyword? "false" s).map fun found => found.map (.typed "false" xsdBoolean, ·)
  | .ok (some rest) => .ok (some (.typed "true" xsdBoolean, rest))
  | .error fault => .error fault

end Ontogen.Rdf.Turtle
