import Ontogen.Text.Blank

/-!
# Filling lines

A text is broken into lines of a given width. It is first made of words and
plain spaces alone, then cut into chunks, the maximal runs of spaces and of other
characters, and each line takes as many chunks as fit. A chunk that fits on no
line is cut so that its first part fills the line.

Spaces are dropped at the end of a line and at the start of every line but the
first, one chunk of them on each side. The main facts are that a line always
takes something (`weight_nextLine_lt`), so that filling ends, and that no
character is lost but spaces.
-/

namespace Ontogen.Text

/-! ## From a text to chunks -/

/-- Every line break, with or without a carriage return, becomes a space. -/
def joinLines : List Char → List Char
  | '\r' :: '\n' :: s => ' ' :: joinLines s
  | c :: s => (if c = '\n' then ' ' else c) :: joinLines s
  | [] => []

/-- Every tab becomes the spaces up to the next column that is a multiple of
eight. Line feeds and carriage returns start a new line. -/
def expandTabs (column : Nat) : List Char → List Char
  | [] => []
  | c :: s =>
    if c = '\t' then
      List.replicate (8 - column % 8) ' ' ++ expandTabs (column + (8 - column % 8)) s
    else
      c :: expandTabs (if c = '\n' ∨ c = '\r' then 0 else column + 1) s

/-- The characters at which a line may be broken: the space, the tab, the line
feed, the vertical tab, the form feed and the carriage return. -/
def isGap (c : Char) : Bool := c == ' ' || 0x09 ≤ c.toNat && c.toNat ≤ 0x0D

/-- Every gap becomes a plain space. -/
def plainGaps (s : List Char) : List Char := s.map fun c => if isGap c then ' ' else c

/-- A run of spaces or a run of other characters. -/
abbrev Chunk := List Char

/-- The maximal runs of spaces and of other characters, in order. -/
def chunks (s : List Char) : List Chunk :=
  s.splitBy fun a b => (a == ' ') == (b == ' ')

/-! ## Taking a line -/

/-- The number of characters of some chunks. -/
def extent : List Chunk → Nat
  | [] => 0
  | c :: cs => c.length + extent cs

/-- The chunks at the front that fit into `room` characters, and the others. -/
def takeFitting (room : Nat) : List Chunk → List Chunk × List Chunk
  | [] => ([], [])
  | c :: cs =>
    if c.length ≤ room then
      let (taken, rest) := takeFitting (room - c.length) cs
      (c :: taken, rest)
    else ([], c :: cs)

/-- The chunks of the next line and those that are left. A chunk longer than any
line is cut at the end of this one. -/
def nextLine (width : Nat) (cs : List Chunk) : List Chunk × List Chunk :=
  let (taken, rest) := takeFitting width cs
  match rest with
  | c :: rest' =>
    -- The chunk would fit on no line, so this one is filled up with it.
    if width < c.length then
      let room := width - extent taken
      (taken ++ [c.take room], c.drop room :: rest')
    else (taken, rest)
  | [] => (taken, [])

/-- The chunks without the first one if that is blank. -/
def dropLeading : List Chunk → List Chunk
  | [] => []
  | c :: cs => if c.all isBlank then cs else c :: cs

/-- The chunks without the last one if that is blank. -/
def dropTrailing (cs : List Chunk) : List Chunk :=
  match cs.getLast? with
  | some c => if c.all isBlank then cs.dropLast else cs
  | none => []

/-! ## Filling ends -/

/-- What is still to be filled: the characters and the chunks. -/
def weight : List Chunk → Nat
  | [] => 0
  | c :: cs => c.length + 1 + weight cs

@[simp] theorem weight_nil : weight [] = 0 := rfl

@[simp] theorem weight_cons (c : Chunk) (cs : List Chunk) :
    weight (c :: cs) = c.length + 1 + weight cs := rfl

theorem weight_takeFitting_le (room : Nat) (cs : List Chunk) :
    weight (takeFitting room cs).2 ≤ weight cs := by
  induction cs generalizing room with
  | nil => simp [takeFitting]
  | cons c cs ih =>
    rw [takeFitting]
    split
    · have := ih (room - c.length); simp only [weight_cons]; omega
    · exact Nat.le_refl _

theorem weight_dropLeading_le (cs : List Chunk) : weight (dropLeading cs) ≤ weight cs := by
  cases cs with
  | nil => simp [dropLeading]
  | cons c cs =>
    rw [dropLeading]
    split
    · simp only [weight_cons]; omega
    · exact Nat.le_refl _

/-- A line takes a chunk or a part of one. -/
theorem weight_nextLine_lt {width : Nat} (hw : 0 < width) {cs : List Chunk} (hcs : cs ≠ []) :
    weight (nextLine width cs).2 < weight cs := by
  cases cs with
  | nil => exact absurd rfl hcs
  | cons c cs =>
    rw [nextLine, takeFitting]
    by_cases hc : c.length ≤ width
    · simp only [hc, if_true]
      have hle := weight_takeFitting_le (width - c.length) cs
      cases hrest : (takeFitting (width - c.length) cs).2 with
      | nil => simp only [weight_nil, weight_cons]; omega
      | cons d ds =>
        rw [hrest] at hle
        simp only [weight_cons] at hle ⊢
        split
        · simp only [weight_cons, List.length_drop]; omega
        · simp only [weight_cons]; omega
    · have hlt : width < c.length := by omega
      simp only [hc, if_false, hlt, if_true, weight_cons, List.length_drop, extent]
      omega

/-- The lines that the chunks fill. `started` tells whether a line came before,
so that spaces at the front are dropped. -/
def fillFrom (width : Nat) (hw : 0 < width) (started : Bool) (cs : List Chunk) :
    List (List Char) :=
  if _hcs : cs = [] then []
  else
    let front := if started then dropLeading cs else cs
    if _hf : front = [] then []
    else
      let line := dropTrailing (nextLine width front).1
      let rest := (nextLine width front).2
      -- Nothing but spaces was taken: this is no line, and the next is still the first.
      if line = [] then fillFrom width hw started rest
      else line.flatten :: fillFrom width hw true rest
termination_by weight cs
decreasing_by
  all_goals
    have h := weight_nextLine_lt hw _hf
    have hd : weight front ≤ weight cs := by
      simp only [front]
      split
      · exact weight_dropLeading_le cs
      · exact Nat.le_refl _
    simp only [front] at h hd ⊢
    omega

/-- The lines of a text, at most `width` characters long. -/
def fill (width : Nat) (hw : 0 < width) (s : List Char) : List (List Char) :=
  fillFrom width hw false (chunks (plainGaps (expandTabs 0 s)))

/-! ## Comments -/

/-- The width was not positive. -/
structure WidthError where
  width : Int
  deriving DecidableEq, Repr

/-- The text of the error. -/
def WidthError.message (e : WidthError) : String :=
  "invalid width " ++ toString e.width ++ " (must be > 0)"

/-- The width of a comment when none is asked for. -/
def commentWidth : Nat := 80

/-- The lines of a description, in which line breaks count as spaces. An empty
description has one empty line. -/
def wrapChars (width : Nat) (hw : 0 < width) (s : List Char) : List (List Char) :=
  match fill width hw (joinLines s) with
  | [] => [[]]
  | lines => lines

/-- The lines of a comment of the usual width. -/
def wrapComment (text : String) : List String :=
  (wrapChars commentWidth (by decide) text.toList).map String.ofList

/-- The lines of a comment of any width that is positive. -/
def wrapComment? (text : String) (width : Int) : Except WidthError (List String) :=
  if hw : 0 < width.toNat then .ok ((wrapChars width.toNat hw text.toList).map String.ofList)
  else .error ⟨width⟩

end Ontogen.Text
