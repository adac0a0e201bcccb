import Ontogen.Decimal.Shortest
import Ontogen.Text.Blank
import Ontogen.Text.Digits

/-!
# Numerals

The texts that are read as whole numbers, as decimals or as doubles, and the one
text that each number is written as. Digits of any script count, blanks around a
numeral do not, and underscores may divide its digits.
-/

namespace Ontogen.Decimal

/-! ## Parts of numerals -/

/-- Digits as a number. -/
def natural (digits : List Char) : Nat := Nat.ofDigitChars 10 digits 0

/-- The sign at the front of a text, which tells whether a number is negative, and
the text after it. -/
def signSpan : List Char → Bool × List Char
  | '-' :: s => (true, s)
  | '+' :: s => (false, s)
  | s => (false, s)

/-- A number with its sign in front. -/
def signed (negative : Bool) (digits : List Char) : List Char :=
  if negative then '-' :: digits else digits

/-- The number `digits * 10 ^ exponent` with a sign. -/
structure Numeral where
  negative : Bool
  digits : Nat
  exponent : Int
  deriving DecidableEq, Repr

/-- Digits with a point before, after or among them, and the text after them. The
first list are the digits, the second one those after the point. -/
def digitsSpan? (s : List Char) : Option ((List Char × List Char) × List Char) :=
  let whole := s.takeWhile Char.isDigit
  let (part, rest) := match s.dropWhile Char.isDigit with
    | '.' :: s => (s.takeWhile Char.isDigit, s.dropWhile Char.isDigit)
    | s => ([], s)
  if whole.isEmpty && part.isEmpty then none else some ((whole ++ part, part), rest)

/-- The exponent at the front of a text and the text after it. -/
def exponentSpan? : List Char → Option (Int × List Char)
  | c :: s =>
    let (negative, s) := signSpan s
    let digits := s.takeWhile Char.isDigit
    if (c = 'e' ∨ c = 'E') ∧ digits ≠ [] then
      let n : Int := natural digits
      some (if negative then -n else n, s.dropWhile Char.isDigit)
    else none
  | [] => none

/-- A whole text as a number: digits with a point or none, and perhaps an
exponent. -/
def numeral? (s : List Char) : Option Numeral :=
  let (negative, s) := signSpan s
  match digitsSpan? s with
  | none => none
  | some ((digits, part), rest) =>
    let number (exponent : Int) : Numeral := ⟨negative, natural digits, exponent - part.length⟩
    if rest.isEmpty then some (number 0)
    else
      match exponentSpan? rest with
      | some (exponent, []) => some (number exponent)
      | _ => none

/-! ## Digits and blanks of all scripts -/

/-- A character of a numeral in ASCII: a digit by its value, a blank beyond ASCII as a
space. -/
def plainChar (c : Char) : Char :=
  if c.toNat < 0x7F then c else if Text.isBlank c then ' ' else Text.plainDigit c

/-- The blanks of ASCII that may stand around a numeral. -/
def isPadding (c : Char) : Bool := c == ' ' || 0x09 ≤ c.toNat && c.toNat ≤ 0x0D

/-- A text in ASCII as far as it is a numeral, without the blanks around it. -/
def plainText (s : List Char) : List Char :=
  (((s.map plainChar).dropWhile isPadding).reverse.dropWhile isPadding).reverse

/-- The text without the underscores between digits; none if there is one elsewhere.
The first argument tells whether a digit came before. -/
def withoutDividers? (afterDigit : Bool) : List Char → Option (List Char)
  | [] => some []
  | '_' :: c :: s =>
    if afterDigit && c.isDigit then (withoutDividers? true s).map (c :: ·) else none
  | c :: s => if c = '_' then none else (withoutDividers? c.isDigit s).map (c :: ·)

/-! ## Whole numbers -/

/-- The most digits that a whole number may have. -/
def wholeDigitLimit : Nat := 4300

/-- A whole number as it is written: its digits without zeros in front, and no sign if
it is zero. -/
def wholeText (negative : Bool) (digits : List Char) : List Char :=
  let text := Nat.toDigits 10 (natural digits)
  signed (negative && text != ['0']) text

/-- The text of the whole number that a text is read as, if it is one. -/
def canonicalWhole? (s : List Char) : Option (List Char) :=
  let (negative, s) := signSpan (plainText s)
  match withoutDividers? false s with
  | some digits =>
    if digits.isEmpty || !digits.all Char.isDigit || wholeDigitLimit < digits.length then none
    else some (wholeText negative digits)
  | none => none

/-! ## Decimals -/

/-- The text in lower case as far as it is in ASCII. -/
def foldCase (s : List Char) : List Char := s.map Char.toLower

/-- The text of a number without an exponent. The digits after the point are those that
it was given with. -/
def Numeral.plain (n : Numeral) : List Char :=
  let digits := Nat.toDigits 10 n.digits
  let places := (-n.exponent).toNat
  signed n.negative
    (if 0 ≤ n.exponent then
      if n.digits = 0 then digits else digits ++ List.replicate n.exponent.toNat '0'
    else
      let padded := List.replicate (places + 1 - digits.length) '0' ++ digits
      padded.take (padded.length - places) ++ '.' :: padded.drop (padded.length - places))

/-- What is no number: a name for it, and digits that tell more about it. -/
def notNumber? (s : List Char) : Option (List Char) :=
  let payload (digits : List Char) : Option (List Char) :=
    if digits.all Char.isDigit then some (digits.dropWhile (· == '0')) else none
  match foldCase s with
  | 'n' :: 'a' :: 'n' :: digits => (payload digits).map ("NaN".toList ++ ·)
  | 's' :: 'n' :: 'a' :: 'n' :: digits => (payload digits).map ("sNaN".toList ++ ·)
  | word =>
    if word = "inf".toList ∨ word = "infinity".toList then some "Infinity".toList else none

/-- The exponent that no decimal may have: its zeros would not be written out. -/
def decimalExponentLimit : Nat := 10000000

/-- The text of the decimal that a text is read as, if it is one. Underscores count for
nothing. -/
def canonicalDecimal? (s : List Char) : Option (List Char) :=
  let s := ((Text.trim s).map plainChar).filter (· != '_')
  match numeral? s with
  | some n => if n.exponent.natAbs < decimalExponentLimit then some n.plain else none
  | none =>
    let (negative, word) := signSpan s
    (notNumber? word).map (signed negative)

/-! ## Doubles -/

/-- The text of the double that a text is read as, if it is one. -/
def canonicalDouble? (s : List Char) : Option (List Char) :=
  match withoutDividers? false (plainText s) with
  | none => none
  | some s =>
    match numeral? s with
    | some n => some (signed n.negative (doubleText n.digits n.exponent))
    | none =>
      let (negative, word) := signSpan s
      let word := foldCase word
      if word = "inf".toList ∨ word = "infinity".toList then some (signed negative "inf".toList)
      else if word = "nan".toList then some word
      else none

end Ontogen.Decimal
