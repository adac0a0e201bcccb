/-!
# The shortest decimal of a double

A number given in decimal is rounded to the nearest binary number of double
precision, a tie to the even one, and written with the fewest digits that round
to the same number, the nearest of these. All arithmetic is on natural numbers.
-/

namespace Ontogen.Decimal

/-- The nearest natural number to a quotient, a tie to the even one. -/
def roundHalfEven (num den : Nat) : Nat :=
  let quotient := num / den
  let twice := 2 * (num % den)
  if twice < den then quotient
  else if den < twice then quotient + 1
  else quotient + quotient % 2

/-- A number `significand * 2 ^ exponent`. -/
structure Binary where
  significand : Nat
  exponent : Int
  deriving DecidableEq, Repr

/-- The bits of a significand. -/
def precision : Nat := 53

/-- What every significand is below. -/
def significandBound : Nat := 9007199254740992

example : significandBound = Nat.pow 2 precision := by decide +kernel

/-- The least exponent. -/
def leastExponent : Int := -1074

/-- The exponent above which numbers are infinite. -/
def greatestExponent : Int := 971

/-- A fraction multiplied by a power of `base`, as numerator and denominator. -/
def scale (base : Nat) (num den : Nat) (power : Int) : Nat × Nat :=
  if 0 ≤ power then (num * Nat.pow base power.toNat, den)
  else (num, den * Nat.pow base (-power).toNat)

/-- The number of double precision that is nearest to a positive fraction; none if
it is too large. -/
def nearest (num den : Nat) : Option Binary :=
  -- The logarithms tell the quotient up to a factor of two on each side.
  let guess := (num.log2 : Int) - (den.log2 : Int) - precision
  let at_ (exponent : Int) : Binary :=
    let exponent := if exponent < leastExponent then leastExponent else exponent
    let (n, d) := scale 2 num den (-exponent)
    ⟨roundHalfEven n d, exponent⟩
  let first := at_ guess
  let second := if first.significand < significandBound then first else at_ (guess + 1)
  -- Rounding up may have reached the bound, which is a power of two.
  let result := if second.significand < significandBound then second
    else ⟨second.significand / 2, second.exponent + 1⟩
  if greatestExponent < result.exponent then none else some result

/-- Whether a fraction is rounded to a number: it lies between the middles to the
numbers before and after it, or on one of them if the significand is even. -/
def roundsTo (b : Binary) (num den : Nat) : Bool := nearest num den == some b

/-- The number `digits * 10 ^ exponent`. -/
structure Digits where
  digits : Nat
  exponent : Int
  deriving DecidableEq, Repr

/-- The least exponent of ten above a positive fraction, found from `k` upwards. -/
def leadingExponent (num den : Nat) : Nat → Int → Int
  | 0, k => k
  | fuel + 1, k =>
    let (n, d) := scale 10 num den (-k)
    if n < d then k else leadingExponent num den fuel (k + 1)

/-- The decimal with `count` digits nearest to a number among those that round to
it. -/
def withDigits? (b : Binary) (num den : Nat) (leading : Int) (count : Nat) : Option Digits :=
  let unit := leading - count
  let (n, d) := scale 10 num den (-unit)
  let below := n / d
  let fits (digits : Nat) : Bool :=
    let (n, d) := scale 10 digits 1 unit
    digits != 0 && roundsTo b n d
  -- Only the two decimals next to the number can be the nearest that rounds to it.
  let closest := roundHalfEven n d
  let other := if closest = below then below + 1 else below
  if fits closest then some ⟨closest, unit⟩
  else if fits other then some ⟨other, unit⟩
  else none

/-- The decimal with the fewest digits that rounds to a positive number. -/
def shortest (b : Binary) : Digits :=
  let (num, den) := scale 2 b.significand 1 b.exponent
  let leading := leadingExponent num den 700 (-330)
  ((List.range' 1 17).findSome? (withDigits? b num den leading)).getD
    ⟨b.significand, b.exponent⟩

/-- The decimal digits of a number without the zeros at their end, and how many
zeros these were. -/
def stripZeros (digits : List Char) : List Char × Nat :=
  let kept := (digits.reverse.dropWhile (· == '0')).reverse
  (kept, digits.length - kept.length)

/-- A positive number as text: with a point from one ten-thousandth up to below
10 to the 16, with an exponent of two digits at least otherwise. -/
def Digits.text (d : Digits) : List Char :=
  let (digits, zeros) := stripZeros (Nat.toDigits 10 d.digits)
  let exponent := d.exponent + zeros
  let point := (digits.length : Int) + exponent
  if -4 < point ∧ point ≤ 16 then
    if point ≤ 0 then "0.".toList ++ List.replicate (-point).toNat '0' ++ digits
    else if digits.length ≤ point.toNat then
      digits ++ List.replicate (point.toNat - digits.length) '0' ++ ".0".toList
    else digits.take point.toNat ++ '.' :: digits.drop point.toNat
  else
    let mantissa :=
      match digits with
      | [] => []
      | [c] => [c]
      | c :: cs => c :: '.' :: cs
    let power := point - 1
    let powerDigits := Nat.toDigits 10 power.natAbs
    mantissa ++ ['e', if power < 0 then '-' else '+']
      ++ List.replicate (2 - powerDigits.length) '0' ++ powerDigits

/-- The power of ten that is above all numbers of double precision. -/
def greatestPower : Int := 400

/-- The text of the double nearest to `digits * 10 ^ exponent`. -/
def doubleText (digits : Nat) (exponent : Int) : List Char :=
  let magnitude := ((Nat.toDigits 10 digits).length : Int) + exponent
  if digits = 0 ∨ magnitude < -greatestPower then "0.0".toList
  else if greatestPower < magnitude then "inf".toList
  else
    let (num, den) := scale 10 digits 1 exponent
    match nearest num den with
    | some b => if b.significand = 0 then "0.0".toList else (shortest b).text
    | none => "inf".toList

end Ontogen.Decimal
