import Ontogen.Calendar.Date

/-!
# Times of day

Hours, minutes and seconds with fractions, with colons between them or without, and
perhaps the zone that they are meant in, which is given by its distance from the
zone of reference. A time is written with colons and down to the second at least.
-/

namespace Ontogen.Calendar

/-- A time since midnight, or between two zones. -/
structure Clock where
  hour : Nat
  minute : Nat
  second : Nat
  microsecond : Nat
  deriving DecidableEq, Repr

/-- The zone of a time: its distance from the zone of reference, and whether it is
behind that zone. -/
structure Zone where
  behind : Bool
  distance : Clock
  deriving DecidableEq, Repr

namespace Clock

/-- Two digits. -/
def twoDigits (n : Nat) : List Char := padded 2 n

/-- The fraction of a second as it is written, with a point in front; nothing if
there is none. -/
def fractionText (microsecond : Nat) : List Char :=
  if microsecond = 0 then [] else '.' :: padded 6 microsecond

/-- A time as it is written. -/
def text (c : Clock) : List Char :=
  twoDigits c.hour ++ ':' :: twoDigits c.minute ++ ':' :: twoDigits c.second
    ++ fractionText c.microsecond

/-- Whether a day has such a time. -/
def isValid (c : Clock) : Bool := c.hour < 24 && c.minute < 60 && c.second < 60

/-- The whole seconds of a distance. -/
def seconds (c : Clock) : Nat := 3600 * c.hour + 60 * c.minute + c.second

/-- A distance by its seconds and microseconds. -/
def ofSeconds (seconds microsecond : Nat) : Clock :=
  ⟨seconds / 3600, seconds / 60 % 60, seconds % 60, microsecond⟩

end Clock

/-- The seconds of a day. -/
def daySeconds : Nat := 86400

namespace Zone

/-- The zone of reference. -/
def reference : Zone := ⟨false, ⟨0, 0, 0, 0⟩⟩

/-- The zone at a distance, which is less than a day. -/
def ofDistance? (behind : Bool) (distance : Clock) : Option Zone :=
  if distance.seconds = 0 then some reference
  else if distance.seconds < daySeconds then
    some ⟨behind, .ofSeconds distance.seconds distance.microsecond⟩
  else none

/-- A zone as it is written: down to the minute, and further only as needed. -/
def text (z : Zone) : List Char :=
  let d := z.distance
  (if z.behind then '-' else '+') :: Clock.twoDigits d.hour ++ ':' :: Clock.twoDigits d.minute
    ++ if d.second = 0 ∧ d.microsecond = 0 then []
      else ':' :: Clock.twoDigits d.second ++ Clock.fractionText d.microsecond

end Zone

/-! ## Reading -/

/-- The pairs of digits that a time begins with, and what follows them. -/
structure Pairs where
  values : List Nat
  /-- The digits of the fraction and all after them, if there is a fraction. -/
  fraction : Option (List Char) := none
  /-- Whether a character is left over after the last pair. -/
  leftOver : Bool := false
  deriving DecidableEq, Repr

/-- Adds a pair in front. -/
def Pairs.cons (value : Nat) (p : Pairs) : Pairs := { p with values := value :: p.values }

/-- The pairs of digits at the front of a text, at most so many. The first separator
tells whether all pairs are separated by colons. Of what is no pair, one character of
ASCII may be left over. -/
def pairsFrom? (separated : Option Bool) : Nat → List Char → Option Pairs
  | 0, s => some { values := [], fraction := some s }
  | more + 1, s =>
    match fixedDigits? 2 s with
    | none => none
    | some (value, []) => some { values := [value] }
    | some (value, [c]) =>
      if c.toNat < 0x80 then some { values := [value], leftOver := true } else none
    | some (value, c :: s) =>
      let colons := separated.getD (c == ':')
      if c = ':' ∧ colons then (pairsFrom? (some colons) more s).map (·.cons value)
      else if c = '.' ∨ c = ',' then some { values := [value], fraction := some s }
      else if colons then none
      else (pairsFrom? (some colons) more (c :: s)).map (·.cons value)

/-- The microseconds that the digits of a fraction make, and whether characters are
left over. Digits after the sixth count for nothing. -/
def microseconds? (s : List Char) : Option (Nat × Bool) :=
  let digits := s.take 6
  if digits.all Char.isDigit then
    some (Decimal.natural (digits ++ List.replicate (6 - digits.length) '0'),
      !((s.drop 6).dropWhile Char.isDigit).isEmpty)
  else none

/-- The time at the front of a text, and whether characters are left over. -/
def clockSpan? (s : List Char) : Option (Clock × Bool) := do
  let pairs ← pairsFrom? none 3 s
  let (microsecond, leftOver) ← match pairs.fraction with
    | some s => microseconds? s
    | none => some (0, pairs.leftOver)
  return (⟨pairs.values.getD 0 0, pairs.values.getD 1 0, pairs.values.getD 2 0, microsecond⟩,
    leftOver)

/-- Whether a character begins a zone. -/
def beginsZone (c : Char) : Bool := c == '+' || c == '-' || c == 'Z'

/-- The zone that a text is. -/
def zone? : List Char → Option Zone
  | c :: s =>
    if c = 'Z' then (if s.isEmpty then some .reference else none)
    else
      match clockSpan? s with
      | some (distance, false) => Zone.ofDistance? (c == '-') distance
      | _ => none
  | [] => none

/-- A time of day and perhaps its zone. -/
structure ZonedClock where
  clock : Clock
  zone : Option Zone
  deriving DecidableEq, Repr

namespace ZonedClock

/-- Midnight without a zone. -/
def midnight : ZonedClock := ⟨⟨0, 0, 0, 0⟩, none⟩

/-- A time with its zone as it is written. -/
def text (c : ZonedClock) : List Char := c.clock.text ++ (c.zone.map Zone.text).getD []

/-- The time that a text is, perhaps with its zone. What is left over between the two
counts for nothing. -/
def ofText? (s : List Char) : Option ZonedClock := do
  let (clock, leftOver) ← clockSpan? (s.takeWhile fun c => !beginsZone c)
  let zone ← match s.dropWhile fun c => !beginsZone c with
    | [] => if leftOver then none else some none
    | s => (zone? s).map some
  if clock.isValid then some ⟨clock, zone⟩ else none

end ZonedClock

/-- The text of the time of day that a text is read as, if it is one. -/
def canonicalTime? (s : List Char) : Option (List Char) :=
  let s := match s with
    | 'T' :: s => s
    | s => s
  (ZonedClock.ofText? s).map ZonedClock.text

/-! ## Dates with times -/

/-- The number of characters of the date that a text begins with. One character of any
kind stands between it and the time. -/
def dateLength (s : List Char) : Nat :=
  let isDigitAt (n : Nat) : Bool := (s[n]?.map Char.isDigit).getD false
  if s.length = 7 then 7
  else if s[4]? = some '-' then
    if s[5]? = some 'W' then
      -- A hyphen with two digits after it is taken for what separates date and time.
      if s[8]? = some '-' ∧ !isDigitAt 10 then 10 else 8
    else 10
  else if s[4]? = some 'W' then
    -- The digits of a time come in pairs, so an odd one is that of the day.
    let digits := ((s.drop 7).takeWhile Char.isDigit).length
    if digits < 2 then 7 + digits
    else if digits % 2 = 0 then 8
    else 7
  else 8

/-- The text of the date with a time that a text is read as, if it is one. The time is
midnight when there is none. -/
def canonicalDateTime? (s : List Char) : Option (List Char) := do
  let date ← Date.ofText? (s.take (dateLength s))
  let clock ← match s.drop (dateLength s) with
    | [] => some ZonedClock.midnight
    | _ :: s => ZonedClock.ofText? s
  return date.text ++ 'T' :: clock.text

example : canonicalTime? "12:30Z".toList = some "12:30:00+00:00".toList := by decide +kernel
example : canonicalDateTime? "2020-01-01 0102,5".toList
    = some "2020-01-01T01:02:00.500000".toList := by decide +kernel

end Ontogen.Calendar
