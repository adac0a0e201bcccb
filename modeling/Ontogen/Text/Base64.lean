/-!
# Base 64

Bytes written as letters with six bits each, in groups of four. A group that the
bytes do not fill has padding at its end, and the bits that belong to no byte are
zero.
-/

namespace Ontogen.Text.Base64

/-- The letters by the numbers that they stand for. -/
def alphabet : List Char :=
  "ABCDEFGHIJKLMNOPQRSTUVWXYZabcdefghijklmnopqrstuvwxyz0123456789+/".toList

/-- The number that a letter stands for. -/
def value? (c : Char) : Option Nat := alphabet.idxOf? c

/-- The letter that stands for a number. -/
def letter (n : Nat) : Char := alphabet.getD n 'A'

/-- The numbers of the letters of a text of which `count` letters are already read,
with `pads` pads after the last. The pads that fill a group end the text, other
characters count for nothing. None if the last group is not full. -/
def valuesFrom? (count pads : Nat) : List Char → Option (List Nat)
  | [] => if count % 4 = 0 then some [] else none
  | c :: s =>
    match value? c with
    | some n => (valuesFrom? (count + 1) 0 s).map (n :: ·)
    | none =>
      if c = '=' ∧ 2 ≤ count % 4 then
        if 4 ≤ count % 4 + pads + 1 then some [] else valuesFrom? count (pads + 1) s
      else valuesFrom? count pads s

/-- The letters of numbers in groups of four, with padding. The last number of a
shorter group keeps only the bits that fill a byte. -/
def groupsText : List Nat → List Char
  | a :: b :: c :: d :: rest => letter a :: letter b :: letter c :: letter d :: groupsText rest
  | [a, b, c] => [letter a, letter b, letter (c / 4 * 4), '=']
  | [a, b] => [letter a, letter (b / 16 * 16), '=', '=']
  | _ => []

/-- The text of the bytes that a text of ASCII is read as, if it can be. -/
def canonical? (s : List Char) : Option (List Char) :=
  if s.all fun c => c.toNat < 0x80 then (valuesFrom? 0 0 s).map groupsText else none

example : canonical? "QU J=!D".toList = some "QUI=".toList := by decide +kernel
example : canonical? "QR==".toList = some "QQ==".toList := by decide +kernel
example : canonical? "QUI".toList = none := by decide +kernel

end Ontogen.Text.Base64
