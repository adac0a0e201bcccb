import Ontogen.Calendar.Clock

/-!
# Durations

A duration is given by amounts of the units from years to seconds, the greater ones
first. It is written with months below twelve, hours below a day and minutes and
seconds below sixty; a month is no number of days, so the two stand side by side.
-/

namespace Ontogen.Calendar

/-- A length of time, forwards or backwards. -/
structure Duration where
  negative : Bool
  months : Nat
  microseconds : Nat
  deriving DecidableEq, Repr

/-- The number `digits / 10 ^ places`. -/
structure Amount where
  digits : Nat
  places : Nat
  deriving DecidableEq, Repr

/-- An amount of the unit that a letter stands for, at the front of a text, and the
text after it. It is zero when there is none. -/
def amountSpan (letter : Char) (s : List Char) : Amount × List Char :=
  let whole := s.takeWhile Char.isDigit
  let after := s.dropWhile Char.isDigit
  let (part, rest) := match after with
    | '.' :: s | ',' :: s => (s.takeWhile Char.isDigit, s.dropWhile Char.isDigit)
    | s => ([], s)
  if whole.isEmpty then (⟨0, 0⟩, s)
  else
    match after, rest with
    | c :: after, d :: rest =>
      if c = letter then (⟨Decimal.natural whole, 0⟩, after)
      else if d = letter ∧ part ≠ [] then
        (⟨Decimal.natural (whole ++ part), part.length⟩, rest)
      else (⟨0, 0⟩, s)
    | _, _ => (⟨0, 0⟩, s)

/-- The amounts of the units that letters stand for, in order, and the text after
them. -/
def amountsSpan (s : List Char) : List Char → List Amount × List Char
  | [] => ([], s)
  | letter :: letters =>
    let (amount, s) := amountSpan letter s
    let (amounts, s) := amountsSpan s letters
    (amount :: amounts, s)

/-- The microseconds of amounts of units with so many microseconds each, to the
nearest. -/
def microsecondsOf (amounts : List (Amount × Nat)) : Nat :=
  let places := amounts.foldl (fun n a => if n < a.1.places then a.1.places else n) 0
  let total := amounts.foldl
    (fun n a => n + a.1.digits * a.2 * Nat.pow 10 (places - a.1.places)) 0
  Decimal.roundHalfEven total (Nat.pow 10 places)

/-- The microseconds of a second. -/
def secondMicroseconds : Nat := 1000000

/-- The microseconds of the units of weeks, days, hours, minutes and seconds. -/
def unitMicroseconds : List Nat :=
  [604800, 86400, 3600, 60, 1].map (· * secondMicroseconds)

/-- The days that a duration may not reach. -/
def dayLimit : Nat := 1000000000

/-- The duration that a text is: a sign perhaps, `P`, the units from years to days, and
after a `T` those from hours to seconds. Years and months have no fractions. -/
def Duration.ofText? (s : List Char) : Option Duration :=
  let (negative, s) := Decimal.signSpan s
  match s with
  | 'P' :: s =>
    let (dates, rest) := amountsSpan s ['Y', 'M', 'W', 'D']
    let (clocks, rest) := match rest with
      | 'T' :: rest => amountsSpan rest ['H', 'M', 'S']
      | rest => ([⟨0, 0⟩, ⟨0, 0⟩, ⟨0, 0⟩], rest)
    match dates with
    | years :: months :: days =>
      let microseconds := microsecondsOf ((days ++ clocks).zip unitMicroseconds)
      if s.isEmpty ∨ (rest ≠ [] ∧ rest ≠ ['\n']) ∨ 0 < years.places + months.places
          ∨ dayLimit * daySeconds * secondMicroseconds ≤ microseconds then none
      else some ⟨negative, 12 * years.digits + months.digits, microseconds⟩
    | _ => none
  | _ => none

/-- An amount with the letter of its unit, nothing if it is zero. -/
def amountText (n : Nat) (letter : Char) : List Char :=
  if n = 0 then [] else Nat.toDigits 10 n ++ [letter]

/-- Seconds with their fraction, which does not end in a zero. -/
def secondsText (seconds microseconds : Nat) : List Char :=
  if microseconds = 0 then amountText seconds 'S'
  else Nat.toDigits 10 seconds ++ Text.dropEnd '0' (Clock.fractionText microseconds) ++ ['S']

/-- A duration as it is written. -/
def Duration.text (d : Duration) : List Char :=
  let seconds := d.microseconds / secondMicroseconds
  let distance := Clock.ofSeconds (seconds % daySeconds) (d.microseconds % secondMicroseconds)
  let date := amountText (d.months / 12) 'Y' ++ amountText (d.months % 12) 'M'
    ++ amountText (seconds / daySeconds) 'D'
  let clock := amountText distance.hour 'H' ++ amountText distance.minute 'M'
    ++ secondsText distance.second distance.microsecond
  if date.isEmpty && clock.isEmpty then "P0D".toList
  else Decimal.signed d.negative ('P' :: date ++ if clock.isEmpty then [] else 'T' :: clock)

/-- The text of the duration that a text is read as, if it is one. -/
def canonicalDuration? (s : List Char) : Option (List Char) :=
  (Duration.ofText? s).map Duration.text

example : canonicalDuration? "-P14M2WT90.50S".toList = some "-P1Y2M14DT1M30.5S".toList := by
  decide +kernel
example : canonicalDuration? "PT0S".toList = some "P0D".toList := by decide +kernel
example : canonicalDuration? "P1H".toList = none := by decide +kernel

end Ontogen.Calendar
