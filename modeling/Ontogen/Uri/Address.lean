import Ontogen.Text.Cut
import Ontogen.Text.Hex

/-!
# Addresses in brackets

The host of a URI may be an address between brackets: one of version 6, perhaps
with a zone, or one of a later version, which names its version first.
-/

namespace Ontogen.Uri

/-- One to four digits of base 16. -/
def isHextet (s : List Char) : Bool := !s.isEmpty && s.length ≤ 4 && s.all Text.isHex

/-- The value of decimal digits. -/
def decimalValue (s : List Char) : Nat := s.foldl (fun n c => 10 * n + (c.toNat - '0'.toNat)) 0

/-- A number from 0 to 255 without leading zeros. -/
def isOctet (s : List Char) : Bool :=
  !s.isEmpty && s.length ≤ 3 && s.all Char.isDigit
    && (s.head? != some '0' || s.length == 1) && decimalValue s ≤ 255

/-- Four octets with points between them. -/
def isAddress4 (s : List Char) : Bool :=
  let octets := s.splitOn '.'
  octets.length == 4 && octets.all isOctet

/-- The number of groups on one side of `::`, if they are well formed. A side
may be empty. -/
def sideLength? (side : List (List Char)) : Option Nat :=
  if side == [[]] then some 0 else if side.all isHextet then some side.length else none

/-- Groups of an address: eight of them, or two sides of `::` with at most seven
groups in all. -/
def areGroups (groups : List (List Char)) : Bool :=
  -- A colon at either end makes an empty group there; only inner ones are `::`.
  let inner := (groups.drop 1).dropLast
  if inner.contains [] then
    let before := groups.take ((inner.takeWhile fun g => !g.isEmpty).length + 1)
    let after := groups.drop (before.length + 1)
    match sideLength? before, sideLength? after with
    | some m, some n => m + n ≤ 7
    | _, _ => false
  else groups.length == 8 && groups.all isHextet

/-- The groups with an address of version 4 at their end replaced by the two
groups that it stands for. -/
def expandTail (groups : List (List Char)) : Option (List (List Char)) :=
  match groups.getLast? with
  | some last =>
    if '.' ∈ last then
      if isAddress4 last then some (groups.dropLast ++ [['0'], ['0']]) else none
    else some groups
  | none => none

/-- An address of version 6, perhaps followed by `%` and a zone. -/
def isAddress6 (s : List Char) : Bool :=
  let address := Text.beforeFirst '%' s
  let zoneOk :=
    match Text.cutFirst '%' s with
    | none => true
    | some (_, zone) => !zone.isEmpty && !zone.contains '%'
  let groups := address.splitOn ':'
  zoneOk && !s.contains '/' && 3 ≤ groups.length &&
    match expandTail groups with
    | some groups => groups.length ≤ 9 && areGroups groups
    | none => false

/-- An address of a later version: `v`, its version in base 16, a point, and
some text. -/
def isFutureAddress (s : List Char) : Bool :=
  match s with
  | 'v' :: s =>
    let version := s.takeWhile Text.isHex
    match s.dropWhile Text.isHex with
    | '.' :: rest => !version.isEmpty && !rest.isEmpty && !rest.contains '\n'
    | _ => false
  | _ => false

/-- What may stand between brackets. -/
def isBracketed (s : List Char) : Bool :=
  if s.head? == some 'v' then isFutureAddress s else isAddress6 s

example : isAddress6 "::1".toList = true := by decide +kernel
example : isAddress6 "1:2:3:4:5:6:1.2.3.4".toList = true := by decide +kernel
example : isAddress6 "fe80::1%eth0".toList = true := by decide +kernel
example : isAddress6 ":1:2:3:4:5:6:7".toList = false := by decide +kernel
example : isAddress6 "1::2::3".toList = false := by decide +kernel

end Ontogen.Uri
