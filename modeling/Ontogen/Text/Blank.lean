import Ontogen.Text.Ranges

/-!
# Blank characters

Whitespace in the sense of Unicode, with the ASCII separators 1C to 1F. Texts
are trimmed of it and runs of it are collapsed; both keep every other character
(`filter_collapse`, `filter_trim`).
-/

namespace Ontogen.Text

/-- The code points of the blank characters. -/
def blankRanges : List Range :=
  [(0x09, 0x0D), (0x1C, 0x20), (0x85, 0x85), (0xA0, 0xA0), (0x1680, 0x1680),
   (0x2000, 0x200A), (0x2028, 0x2029), (0x202F, 0x202F), (0x205F, 0x205F),
   (0x3000, 0x3000)]

/-- Spaces, line breaks and the other characters that only separate words. -/
def isBlank (c : Char) : Bool := inRanges blankRanges c.toNat

theorem isBlank_space : isBlank ' ' = true := by decide

/-- Every ASCII whitespace character is blank. -/
theorem isBlank_of_isWhitespace {c : Char} (h : c.isWhitespace = true) :
    isBlank c = true := by
  simp only [Char.isWhitespace, Bool.or_eq_true, decide_eq_true_eq] at h
  rcases h with ((rfl | rfl) | rfl) | rfl <;> decide

/-- The text without the blanks it ends in. -/
def trimEnd (s : List Char) : List Char := (s.reverse.dropWhile isBlank).reverse

/-- The text without the blanks at its two ends. -/
def trim (s : List Char) : List Char := trimEnd (s.dropWhile isBlank)

/-- Writes one space for each maximal run of blanks. `inRun` tells whether the
character before was blank, so that its run is already written. -/
def collapseFrom (inRun : Bool) : List Char → List Char
  | [] => []
  | c :: s =>
    if isBlank c then
      if inRun then collapseFrom true s else ' ' :: collapseFrom true s
    else c :: collapseFrom false s

/-- The text with every maximal run of blanks replaced by one space. -/
def collapse (s : List Char) : List Char := collapseFrom false s

/-- The words of a text with single spaces between them. -/
def squeeze (s : List Char) : List Char := trim (collapse s)

private theorem filter_dropWhile_blank (s : List Char) :
    (s.dropWhile isBlank).filter (fun c => !isBlank c) = s.filter (fun c => !isBlank c) := by
  induction s with
  | nil => rfl
  | cons c s ih =>
    by_cases h : isBlank c
    · rw [List.dropWhile_cons_of_pos h, ih, List.filter_cons_of_neg (by simp [h])]
    · rw [List.dropWhile_cons_of_neg h]

/-- Trimming loses no character of a word. -/
theorem filter_trim (s : List Char) :
    (trim s).filter (fun c => !isBlank c) = s.filter (fun c => !isBlank c) := by
  rw [trim, trimEnd, List.filter_reverse, filter_dropWhile_blank, List.filter_reverse,
    List.reverse_reverse, filter_dropWhile_blank]

private theorem filter_collapseFrom (s : List Char) :
    ∀ inRun, (collapseFrom inRun s).filter (fun c => !isBlank c)
      = s.filter (fun c => !isBlank c) := by
  induction s with
  | nil => intro _; rfl
  | cons c s ih =>
    intro inRun
    by_cases h : isBlank c
    · cases inRun <;> simp [collapseFrom, h, ih, isBlank_space]
    · simp [collapseFrom, h, ih]

/-- Collapsing loses no character of a word. -/
theorem filter_collapse (s : List Char) :
    (collapse s).filter (fun c => !isBlank c) = s.filter (fun c => !isBlank c) :=
  filter_collapseFrom s false

end Ontogen.Text
