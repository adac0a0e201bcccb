import Ontogen.Text.Hex

/-!
# Escapes

Characters given by their code points. A text with escapes is first a list of code
points. Some of these are no characters but halves of a surrogate pair; each half is
kept in the text, so that it still counts for one, as a character of a private area.
-/

namespace Ontogen.Text

/-! ## Code points -/

/-- The greatest code point. -/
def lastCodePoint : Nat := 0x10FFFF

/-- Whether a code point is half of a surrogate pair. -/
def isSurrogate (n : Nat) : Bool := 0xD800 ≤ n && n < 0xE000

/-- What the code point of a half and that of the character kept for it differ by. -/
def halfOffset : Nat := 0x100000

/-- The character of a code point, or the one that is kept for half of a pair. -/
def ofCodePoint (n : Nat) : Char := Char.ofNat (if isSurrogate n then n + halfOffset else n)

/-- The code point of the half that a character is kept for, if it is for one. The
private characters from U+10D800 to U+10DFFF are kept for halves alone: in a text that
has one of them in its own right it counts for a half too, so that the text cannot be
stored in a file and is none that XML has. -/
def half? (c : Char) : Option Nat :=
  let n := c.toNat - halfOffset
  if isSurrogate n then some n else none

theorem isSurrogate_toNat (c : Char) : isSurrogate c.toNat = false := by
  have h : c.toNat < 0xD800 ∨ (0xDFFF < c.toNat ∧ c.toNat < 0x110000) := c.valid
  rw [isSurrogate, Bool.and_eq_false_iff, decide_eq_false_iff_not, decide_eq_false_iff_not]
  omega

theorem ofCodePoint_toNat (c : Char) : ofCodePoint c.toNat = c := by
  simp [ofCodePoint, isSurrogate_toNat, Char.ofNat_toNat]

/-! ## Replacing escapes -/

/-- What an escape at the front of a text stands for, and the number of its characters
but the first. -/
abbrev EscapeRule := List Char → Option (Nat × Nat)

/-- The code points of a text in which escapes are replaced. The number counts the
characters that belong to an escape already replaced. -/
def codePointsFrom (rule : EscapeRule) : Nat → List Char → List Nat
  | _, [] => []
  | skip + 1, _ :: s => codePointsFrom rule skip s
  | 0, c :: s =>
    match rule (c :: s) with
    | some (n, more) => n :: codePointsFrom rule more s
    | none => c.toNat :: codePointsFrom rule 0 s

/-- The text in which every escape is replaced, or the first number of an escape that is
above all code points. -/
def replaceEscapes (rule : EscapeRule) (s : List Char) : Except Nat (List Char) :=
  let points := codePointsFrom rule 0 s
  match points.find? fun n => lastCodePoint < n with
  | some n => .error n
  | none => .ok (points.map ofCodePoint)

/-- The escape made of a backslash, a mark and so many hexadecimal digits. -/
def numericEscape (mark : Char) (count : Nat) : EscapeRule
  | '\\' :: c :: s =>
    if c = mark then (hexDigits? count s).map fun digits => (hexNumber digits, count + 1)
    else none
  | _ => none

/-- The escape made of a percent sign and two hexadecimal digits. -/
def percentEscape : EscapeRule
  | '%' :: s => (hexDigits? 2 s).map fun digits => (hexNumber digits, 2)
  | _ => none

end Ontogen.Text
