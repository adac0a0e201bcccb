import Ontogen.Decimal.Numeral
import Ontogen.Text.Cut

/-!
# Dates

Days of the years 1 to 9999, given by month and day or by week and day of the week,
with hyphens between the parts or without. A date is written with hyphens, by month
and day. What is read as a date, a year or a month of a year may have the zone that
it is meant in after it, which counts for nothing.
-/

namespace Ontogen.Calendar

/-! ## Digits -/

/-- A number with zeros in front up to a width. -/
def padded (width n : Nat) : List Char :=
  let digits := Nat.toDigits 10 n
  List.replicate (width - digits.length) '0' ++ digits

/-- The number that so many digits at the front of a text make, and the text after
them. -/
def fixedDigits? (count : Nat) (s : List Char) : Option (Nat × List Char) :=
  let digits := s.take count
  if digits.length = count ∧ digits.all Char.isDigit then
    some (Decimal.natural digits, s.drop count)
  else none

/-! ## The calendar -/

/-- A day by its year, month and day. -/
structure Date where
  year : Nat
  month : Nat
  day : Nat
  deriving DecidableEq, Repr

/-- Whether a year has a day more. -/
def isLeap (year : Nat) : Bool := year % 4 == 0 && (year % 100 != 0 || year % 400 == 0)

/-- The number of days of a year. -/
def daysInYear (year : Nat) : Nat := if isLeap year then 366 else 365

/-- The numbers of days of the months. -/
def monthLengths (year : Nat) : List Nat :=
  [31, if isLeap year then 29 else 28, 31, 30, 31, 30, 31, 31, 30, 31, 30, 31]

/-- The greatest year. -/
def lastYear : Nat := 9999

/-- Whether there is such a day. -/
def Date.isValid (d : Date) : Bool :=
  1 ≤ d.year && d.year ≤ lastYear && 1 ≤ d.month && 1 ≤ d.day
    && match (monthLengths d.year)[d.month - 1]? with
      | some length => d.day ≤ length
      | none => false

/-- The month and the day so many days after the first day of a month, by the lengths
of that month and of those after it. -/
def monthAndDay (month days : Nat) : List Nat → Nat × Nat
  | [] => (month, days + 1)
  | length :: lengths =>
    if days < length then (month, days + 1) else monthAndDay (month + 1) (days - length) lengths

/-- The day so many days after the first day of a year. -/
def Date.ofDays (year days : Nat) : Date :=
  let (month, day) := monthAndDay 1 days (monthLengths year)
  ⟨year, month, day⟩

/-- The day of the week that a year begins with, counted from Monday. -/
def firstWeekday (year : Nat) : Nat :=
  let passed := year - 1
  (passed + passed / 4 - passed / 100 + passed / 400) % 7

/-- The number of weeks of a year. The first week of a year is that of its first
Thursday. -/
def weeksInYear (year : Nat) : Nat :=
  let first := firstWeekday year
  if first = 3 ∨ (first = 2 ∧ isLeap year) then 53 else 52

/-- The day of a week of a year, both counted from one. -/
def Date.ofWeek? (year week day : Nat) : Option Date :=
  if 1 ≤ year ∧ 1 ≤ week ∧ week ≤ weeksInYear year ∧ 1 ≤ day ∧ day ≤ 7 then
    let first := firstWeekday year
    let days := 7 * (week - 1) + (day - 1) + if 3 < first then 7 else 0
    -- The first week may begin in the year before, the last one may end in the next.
    if days < first then some (.ofDays (year - 1) (daysInYear (year - 1) + days - first))
    else if days - first < daysInYear year then some (.ofDays year (days - first))
    else some (.ofDays (year + 1) (days - first - daysInYear year))
  else none

/-! ## Dates as texts -/

/-- A date as it is written. -/
def Date.text (d : Date) : List Char :=
  padded 4 d.year ++ '-' :: padded 2 d.month ++ '-' :: padded 2 d.day

/-- The text without a hyphen at its front, which must be there when hyphens are
asked for. -/
def dropHyphen? (hyphens : Bool) (s : List Char) : Option (List Char) :=
  if hyphens then
    match s with
    | '-' :: s => some s
    | _ => none
  else some s

/-- The date that a text begins with, with hyphens between all parts or without any.
The day of a week may be left out at the end of the text and is its first one then. -/
def Date.ofText? (s : List Char) : Option Date := do
  let (year, s) ← fixedDigits? 4 s
  let hyphens := s.head? == some '-'
  let s ← dropHyphen? hyphens s
  let date ← match s with
    | 'W' :: s => do
      let (week, s) ← fixedDigits? 2 s
      if s.isEmpty then Date.ofWeek? year week 1
      else do
        let (day, _) ← fixedDigits? 1 (← dropHyphen? hyphens s)
        Date.ofWeek? year week day
    | s => do
      let (month, s) ← fixedDigits? 2 s
      let (day, _) ← fixedDigits? 2 (← dropHyphen? hyphens s)
      some ⟨year, month, day⟩
  if date.isValid then some date else none

/-- The text without the letter at its end that stands for the zone of reference. -/
def dropReferenceZone (s : List Char) : List Char :=
  if s.getLast? = some 'Z' ∨ s.getLast? = some 'z' then s.dropLast else s

/-- The position of the last `c` in a text. -/
def lastPosition? (c : Char) (s : List Char) : Option Nat :=
  if c ∈ s then some (Text.beforeLast c s).length else none

/-- The text without the zone at its end: from its last plus sign that is not the
first character, or else from its last hyphen that more than so many characters
precede. -/
def dropZone (hyphenAfter : Nat) (s : List Char) : List Char :=
  let cut (after : Nat) (position : Option Nat) : Option (List Char) :=
    match position with
    | some n => if after < n then some (s.take n) else none
    | none => none
  ((cut 0 (lastPosition? '+' s)) <|> (cut hyphenAfter (lastPosition? '-' s))).getD s

/-- The numbers of characters that a date may have. -/
def dateLengths : List Nat := [7, 8, 10]

/-- The text of the date that a text is read as, if it is one. A time after it counts
for nothing, but there must be a hyphen, and as many characters as a date may have. -/
def canonicalDate? (s : List Char) : Option (List Char) :=
  let s := dropReferenceZone s
  let s := if 'T' ∈ s then Text.beforeFirst 'T' s else dropZone 7 s
  if '-' ∈ s ∧ s.length ∈ dateLengths then (Date.ofText? s).map Date.text else none

/-- The whole number that a text is read as, if it is one above zero and up to a
bound. -/
def positiveUpTo? (bound : Nat) (s : List Char) : Option Nat :=
  match Decimal.canonicalWhole? s with
  | some ('-' :: _) => none
  | some digits =>
    let n := Decimal.natural digits
    if 1 ≤ n ∧ n ≤ bound then some n else none
  | none => none

/-- The text of the year that a text is read as, if it is one. -/
def canonicalYear? (s : List Char) : Option (List Char) :=
  let s := dropZone 0 (dropReferenceZone s)
  if s.length < 4 ∨ s.head? = some '-' then none
  else (positiveUpTo? lastYear (s.dropWhile (· == '0'))).map (padded 4)

/-- The text of the month of a year that a text is read as, if it is one. -/
def canonicalYearMonth? (s : List Char) : Option (List Char) := do
  let s := dropZone 5 (dropReferenceZone s)
  let (year, month) ← Text.cutFirst '-' s
  if year.length < 4 ∨ month.length < 2 then none
  else
    let y ← positiveUpTo? lastYear year
    let m ← positiveUpTo? 12 month
    return padded 4 y ++ '-' :: padded 2 m

example : canonicalDate? "2020-W01-1".toList = some "2019-12-30".toList := by decide +kernel
example : canonicalDate? "2020-02-29+01:00".toList = some "2020-02-29".toList := by decide +kernel
example : canonicalDate? "2021-02-29".toList = none := by decide +kernel

end Ontogen.Calendar
