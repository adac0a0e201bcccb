/-!
# Hexadecimal digits

The digits of base 16, in upper and lower case, and the numbers that they make.
-/

namespace Ontogen.Text

/-- The value of a hexadecimal digit. -/
def hexValue? (c : Char) : Option Nat :=
  if c.isDigit then some (c.toNat - 0x30)
  else if 'a' ≤ c ∧ c ≤ 'f' then some (c.toNat - 0x57)
  else if 'A' ≤ c ∧ c ≤ 'F' then some (c.toNat - 0x37)
  else none

/-- Whether a character is a hexadecimal digit. -/
def isHex (c : Char) : Bool := (hexValue? c).isSome

/-- The number that hexadecimal digits stand for. -/
def hexNumber (digits : List Char) : Nat :=
  digits.foldl (fun n c => 16 * n + (hexValue? c).getD 0) 0

/-- The hexadecimal digits at the front of a text, if there are as many as asked
for. -/
def hexDigits? (count : Nat) (s : List Char) : Option (List Char) :=
  let digits := s.take count
  if digits.length = count ∧ digits.all isHex then some digits else none

end Ontogen.Text
