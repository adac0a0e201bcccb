import Ontogen.Proofs.Text.Fill

/-!
# What lines are like

Filling keeps to chunks that are those of a text (`AreChunks`): the spaces dropped at the ends
of lines, the chunks that a line takes and the parts of a chunk that is cut leave
neighbours of different kinds and no chunk empty. From this each single line is seen to be
no longer than the width and not empty (`length_le_of_mem_fillFrom`, `ne_nil_of_mem_fillFrom`),
and the words of a line are its chunks.

All lines together have the characters of the text that are not blank, in order
(`visible_fillFrom`), and every word that fits on a line is a word of one of them, in order
too (`sublist_words_fillFrom`).

Main result: `wrapComment_outcome`. A comment of any width that is positive is wrapped into
such lines, and a width that is not is an error.
-/

namespace Ontogen.Text

variable {width room : Nat} {s w : List Char} {cs ds rest : List Chunk} {c : Chunk}

/-! ## The visible characters -/

/-- The characters of a text that are not blank. -/
def visible (s : List Char) : List Char := s.filter fun c => !isBlank c

theorem visible_append (s t : List Char) : visible (s ++ t) = visible s ++ visible t := by
  unfold visible
  rw [List.filter_append]

theorem visible_eq_nil (h : s.all isBlank = true) : visible s = [] := by
  unfold visible
  simpa using h

/-- A blank in front is not visible. -/
theorem visible_cons_blank {c : Char} (h : isBlank c = true) (s : List Char) :
    visible (c :: s) = visible s := by
  unfold visible
  simp [h]

theorem visible_cons_congr {c : Char} {s t : List Char} (h : visible s = visible t) :
    visible (c :: s) = visible (c :: t) := by
  unfold visible at *
  rw [List.filter_cons, List.filter_cons, h]

/-- Gaps are blank. -/
theorem isBlank_of_isGap {c : Char} (h : isGap c = true) : isBlank c = true := by
  unfold isGap at h
  unfold isBlank
  simp only [Bool.or_eq_true, beq_iff_eq, Bool.and_eq_true, decide_eq_true_eq] at h
  rcases h with rfl | h
  · decide
  · simp [blankRanges, inRanges_cons, h]

theorem visible_joinLines (s : List Char) : visible (joinLines s) = visible s := by
  fun_induction joinLines s with
  | case1 s ih =>
    rw [visible_cons_blank (by decide), visible_cons_blank (by decide),
      visible_cons_blank (by decide), ih]
  | case2 c s _ ih =>
    by_cases hc : c = '\n'
    · rw [if_pos hc, hc, visible_cons_blank (by decide), visible_cons_blank (by decide), ih]
    · rw [if_neg hc, visible_cons_congr ih]
  | case3 => rfl

theorem visible_expandTabs (column : Nat) (s : List Char) :
    visible (expandTabs column s) = visible s := by
  fun_induction expandTabs column s with
  | case1 => rfl
  | case2 column s ih =>
    have hspaces : (List.replicate (8 - column % 8) ' ').all isBlank = true := by
      simp [List.all_replicate, isBlank_space]
    rw [visible_append, visible_eq_nil hspaces, List.nil_append, ih,
      visible_cons_blank (by decide)]
  | case3 column c s _ ih => rw [visible_cons_congr ih]

theorem visible_plainGaps (s : List Char) : visible (plainGaps s) = visible s := by
  induction s with
  | nil => rfl
  | cons c s ih =>
    show visible ((if isGap c then ' ' else c) :: plainGaps s) = _
    by_cases hc : isGap c = true
    · rw [if_pos hc, visible_cons_blank isBlank_space, visible_cons_blank (isBlank_of_isGap hc), ih]
    · rw [if_neg hc, visible_cons_congr ih]

/-- What lines are filled with has the visible characters of the text. -/
theorem visible_plain (s : List Char) : visible (plain s) = visible s := by
  rw [plain, visible_plainGaps, visible_expandTabs, visible_joinLines]

/-! ## Chunks of a text -/

/-- The chunks are those of the text that they make up. -/
def AreChunks (cs : List Chunk) : Prop := chunks cs.flatten = cs

theorem areChunks_chunks (s : List Char) : AreChunks (chunks s) := by
  unfold AreChunks
  rw [flatten_chunks]

theorem areChunks_iff : AreChunks cs ↔ [] ∉ cs
    ∧ (∀ c ∈ cs, c.IsChain fun a b => ((a == ' ') == (b == ' ')) = true)
    ∧ cs.IsChain fun c d => ∃ hc hd, ((c.getLast hc == ' ') == (d.head hd == ' ')) = false := by
  unfold AreChunks chunks
  rw [List.splitBy_eq_iff]
  simp

theorem AreChunks.part (h : AreChunks cs) (hds : ds <:+: cs) : AreChunks ds := by
  rw [areChunks_iff] at h ⊢
  obtain ⟨hne, hkind, hapart⟩ := h
  exact ⟨fun hmem => hne (hds.subset hmem), fun c hc => hkind c (hds.subset hc),
    List.IsChain.infix hapart hds⟩

/-- The front of the last chunk is a chunk too. -/
theorem AreChunks.take (h : AreChunks (ds ++ [c])) (hroom : 0 < room) :
    AreChunks (ds ++ [c.take room]) := by
  rw [areChunks_iff] at h ⊢
  obtain ⟨hne, hkind, hapart⟩ := h
  have hc : c ≠ [] := fun hnil => hne (by simp [hnil])
  have htake : c.take room ≠ [] := by
    rw [ne_eq, List.take_eq_nil_iff]
    simp [hc, Nat.ne_of_gt hroom]
  refine ⟨?_, ?_, ?_⟩
  · intro hmem
    rcases List.mem_append.mp hmem with hmem | hmem
    · exact hne (List.mem_append_left _ hmem)
    · exact htake (List.mem_singleton.mp hmem).symm
  · intro d hd
    rcases List.mem_append.mp hd with hd | hd
    · exact hkind d (List.mem_append_left _ hd)
    · rw [List.mem_singleton.mp hd]
      exact (hkind c (by simp)).take room
  · rw [List.isChain_append] at hapart ⊢
    refine ⟨hapart.1, List.IsChain.singleton _, ?_⟩
    intro d hd e he
    obtain rfl := Option.some.inj he
    obtain ⟨hlast, hhead, hkinds⟩ := hapart.2.2 d hd c rfl
    refine ⟨hlast, htake, ?_⟩
    rwa [List.head_take]

/-- The back of the first chunk is a chunk too. -/
theorem AreChunks.drop (h : AreChunks (c :: rest)) (hroom : room < c.length) :
    AreChunks (c.drop room :: rest) := by
  rw [areChunks_iff] at h ⊢
  obtain ⟨hne, hkind, hapart⟩ := h
  have hdrop : c.drop room ≠ [] := by
    rw [ne_eq, List.drop_eq_nil_iff]
    omega
  refine ⟨?_, ?_, ?_⟩
  · intro hmem
    rcases List.mem_cons.mp hmem with hmem | hmem
    · exact hdrop hmem.symm
    · exact hne (List.mem_cons_of_mem _ hmem)
  · intro d hd
    rcases List.mem_cons.mp hd with hd | hd
    · rw [hd]
      exact (hkind c (List.mem_cons_self ..)).drop room
    · exact hkind d (List.mem_cons_of_mem _ hd)
  · rw [List.isChain_cons] at hapart ⊢
    refine ⟨?_, hapart.2⟩
    intro d hd
    obtain ⟨hlast, hhead, hkinds⟩ := hapart.1 d hd
    refine ⟨hdrop, hhead, ?_⟩
    rwa [List.getLast_drop]

/-- The words of a text made up of chunks are the chunks that are not made of spaces. -/
theorem AreChunks.words_flatten (h : AreChunks cs) :
    words (· == ' ') cs.flatten = cs.filter fun c => !isSpaces c := by
  have hwords := filter_chunks 0 cs.flatten
  unfold AreChunks at h
  rw [List.replicate_zero, List.nil_append, h] at hwords
  exact hwords.symm

/-! ## How much a line takes -/

theorem length_flatten (cs : List Chunk) : cs.flatten.length = extent cs := by
  induction cs with
  | nil => rfl
  | cons c cs ih => rw [List.flatten_cons, List.length_append, extent, ih]

theorem extent_append (cs ds : List Chunk) : extent (cs ++ ds) = extent cs + extent ds := by
  rw [← length_flatten, ← length_flatten, ← length_flatten, List.flatten_append,
    List.length_append]

theorem extent_nextLine_le (width : Nat) (cs : List Chunk) :
    extent (nextLine width cs).1 ≤ width := by
  rcases nextLine_cases width cs with ⟨-, hextent⟩ | ⟨taken, d, rest, room, -, -, hroom, hline⟩
  · exact hextent
  · rw [hline, extent_append]
    show extent taken + ((d.take room).length + 0) ≤ width
    rw [List.length_take]
    omega

theorem dropTrailing_concat (cs : List Chunk) (c : Chunk) :
    dropTrailing (cs ++ [c]) = if c.all isBlank then cs else cs ++ [c] := by
  unfold dropTrailing
  rw [List.getLast?_concat, List.dropLast_concat]

/-- A line is made up of the chunks of its text. -/
theorem areChunks_line (h : AreChunks cs) : AreChunks (dropTrailing (nextLine width cs).1) := by
  rcases nextLine_cases width cs with ⟨hparts, -⟩ | ⟨taken, d, rest, room, hcs, -, -, hline⟩
  · have hprefix : (nextLine width cs).1 <+: cs := ⟨_, hparts⟩
    exact h.part ((prefix_dropTrailing _).trans hprefix).isInfix
  · have htaken : AreChunks (taken ++ [d]) := by
      refine h.part (List.IsPrefix.isInfix ⟨rest, ?_⟩)
      rw [hcs, List.append_assoc]
      rfl
    rw [hline]
    by_cases hroom : 0 < room
    · exact (htaken.take hroom).part (prefix_dropTrailing _).isInfix
    · -- Without room the empty part that is taken is dropped again.
      have hnone : dropTrailing (taken ++ [d.take room]) = taken := by
        rw [dropTrailing_concat, Nat.eq_zero_of_not_pos hroom]
        rfl
      rw [hnone]
      exact htaken.part (List.prefix_append _ _).isInfix

/-- What is left after a line is made up of the chunks of its text. -/
theorem areChunks_rest (h : AreChunks cs) : AreChunks (nextLine width cs).2 := by
  rcases nextLine_cases width cs with
    ⟨hparts, -⟩ | ⟨taken, d, rest, room, hcs, hlong, hroom, hline⟩
  · exact h.part (List.IsSuffix.isInfix ⟨_, hparts⟩)
  · have hrest : AreChunks (d :: rest) := h.part (List.IsSuffix.isInfix ⟨taken, hcs.symm⟩)
    rw [hline]
    exact hrest.drop (by omega)

/-- Dropping the spaces in front of a line leaves the chunks of a text. -/
theorem areChunks_front (h : AreChunks cs) (started : Bool) :
    AreChunks (if started then dropLeading cs else cs) :=
  h.part (suffix_front started cs).isInfix

/-! ## Every single line -/

/-- Every line is taken from the chunks of some text, and something is left of it once the
spaces at its end are dropped. -/
theorem mem_fillFrom {hw : 0 < width} {started : Bool} {line : List Char} (h : AreChunks cs)
    (hline : line ∈ fillFrom width hw started cs) :
    ∃ front, AreChunks front ∧ dropTrailing (nextLine width front).1 ≠ []
      ∧ line = (dropTrailing (nextLine width front).1).flatten := by
  fun_induction fillFrom width hw started cs with
  | case1 => cases hline
  | case2 => cases hline
  | case3 started cs hcs front hfront taken rest htaken ih =>
    exact ih (areChunks_rest (areChunks_front h started)) hline
  | case4 started cs hcs front hfront taken rest htaken ih =>
    rcases List.mem_cons.mp hline with hline | hline
    · exact ⟨front, areChunks_front h started, htaken, hline⟩
    · exact ih (areChunks_rest (areChunks_front h started)) hline

theorem AreChunks.flatten_ne_nil (h : AreChunks cs) (hcs : cs ≠ []) : cs.flatten ≠ [] := by
  obtain ⟨hne, -, -⟩ := areChunks_iff.mp h
  obtain ⟨c, cs, rfl⟩ := List.exists_cons_of_ne_nil hcs
  intro hnil
  rw [List.flatten_cons, List.append_eq_nil_iff] at hnil
  exact hne (by simp [hnil.1])

theorem length_le_of_mem_fillFrom {hw : 0 < width} {started : Bool} {line : List Char}
    (h : AreChunks cs) (hline : line ∈ fillFrom width hw started cs) : line.length ≤ width := by
  obtain ⟨front, -, -, rfl⟩ := mem_fillFrom h hline
  calc (dropTrailing (nextLine width front).1).flatten.length
      ≤ (nextLine width front).1.flatten.length :=
        (prefix_flatten (prefix_dropTrailing _)).length_le
    _ = extent (nextLine width front).1 := length_flatten _
    _ ≤ width := extent_nextLine_le width front

theorem ne_nil_of_mem_fillFrom {hw : 0 < width} {started : Bool} {line : List Char}
    (h : AreChunks cs) (hline : line ∈ fillFrom width hw started cs) : line ≠ [] := by
  obtain ⟨front, hfront, htaken, rfl⟩ := mem_fillFrom h hline
  exact (areChunks_line hfront).flatten_ne_nil htaken

/-! ## All lines together -/

theorem visible_dropLeading (cs : List Chunk) :
    visible (dropLeading cs).flatten = visible cs.flatten := by
  cases cs with
  | nil => rfl
  | cons c cs =>
    rw [dropLeading]
    by_cases hc : c.all isBlank = true
    · rw [if_pos hc, List.flatten_cons, visible_append, visible_eq_nil hc, List.nil_append]
    · rw [if_neg hc]

theorem visible_dropTrailing (cs : List Chunk) :
    visible (dropTrailing cs).flatten = visible cs.flatten := by
  rcases List.eq_nil_or_concat cs with rfl | ⟨ds, c, rfl⟩
  · rfl
  · rw [List.concat_eq_append, dropTrailing_concat]
    by_cases hc : c.all isBlank = true
    · rw [if_pos hc, List.flatten_append, visible_append, List.flatten_singleton,
        visible_eq_nil hc, List.append_nil]
    · rw [if_neg hc]

theorem visible_front (started : Bool) (cs : List Chunk) :
    visible (if started then dropLeading cs else cs).flatten = visible cs.flatten := by
  cases started with
  | true => exact visible_dropLeading cs
  | false => rfl

/-- The lines have the visible characters of what is filled. -/
theorem visible_fillFrom (hw : 0 < width) (started : Bool) (cs : List Chunk) :
    (fillFrom width hw started cs).flatMap visible = visible cs.flatten := by
  have hstep : ∀ front, visible (dropTrailing (nextLine width front).1).flatten
      ++ visible (nextLine width front).2.flatten = visible front.flatten := by
    intro front
    rw [visible_dropTrailing, ← visible_append, flatten_nextLine]
  fun_induction fillFrom width hw started cs with
  | case1 => rfl
  | case2 started cs hcs front hnil =>
    rw [← visible_front started cs]
    show [] = visible front.flatten
    rw [hnil]
    rfl
  | case3 started cs hcs front hfront taken rest htaken ih =>
    have hfilled := hstep front
    rw [← visible_front started cs, ih]
    show visible rest.flatten = visible front.flatten
    rw [← hfilled]
    show _ = visible taken.flatten ++ _
    rw [htaken]
    rfl
  | case4 started cs hcs front hfront taken rest htaken ih =>
    rw [← visible_front started cs, List.flatMap_cons, ih]
    exact hstep front

/-! ## Words that fit -/

/-- A chunk that is not blank and no longer than a line. -/
def fits (width : Nat) (c : Chunk) : Bool := decide (c.length ≤ width) && !c.all isBlank

theorem isSpaces_of_fits (h : fits width c = true) : isSpaces c = false := by
  rw [Bool.eq_false_iff]
  intro hspaces
  have hblank : c.all isBlank = true := by
    rw [List.all_eq_true]
    intro x hx
    obtain rfl : x = ' ' := by simpa using List.all_eq_true.mp hspaces x hx
    exact isBlank_space
  simp [fits, hblank] at h

theorem fits_of_blank (h : c.all isBlank = true) : fits width c = false := by
  simp [fits, h]

theorem filter_fits_front (started : Bool) (cs : List Chunk) :
    (if started then dropLeading cs else cs).filter (fits width) = cs.filter (fits width) := by
  cases started with
  | false => rfl
  | true =>
    show (dropLeading cs).filter _ = _
    cases cs with
    | nil => rfl
    | cons c cs =>
      rw [dropLeading]
      by_cases hc : c.all isBlank = true
      · rw [if_pos hc, List.filter_cons_of_neg (by simp [fits_of_blank hc])]
      · rw [if_neg hc]

theorem filter_fits_dropTrailing (cs : List Chunk) :
    (dropTrailing cs).filter (fits width) = cs.filter (fits width) := by
  rcases List.eq_nil_or_concat cs with rfl | ⟨ds, c, rfl⟩
  · rfl
  · rw [List.concat_eq_append, dropTrailing_concat]
    by_cases hc : c.all isBlank = true
    · rw [if_pos hc, List.filter_append, List.filter_singleton, fits_of_blank hc]
      simp
    · rw [if_neg hc]

/-- The chunks that fit on a line are on this one or still to come. -/
theorem sublist_nextLine (width : Nat) (cs : List Chunk) :
    (cs.filter (fits width)).Sublist
      ((dropTrailing (nextLine width cs).1).filter (fits width)
        ++ (nextLine width cs).2.filter (fits width)) := by
  rw [filter_fits_dropTrailing]
  rcases nextLine_cases width cs with ⟨hparts, -⟩ | ⟨taken, d, rest, room, hcs, hlong, -, hline⟩
  · rw [← List.filter_append, hparts]
  · have hd : fits width d = false := by
      unfold fits
      simp [Nat.not_le_of_lt hlong]
    rw [hline, hcs, List.filter_append, List.filter_cons_of_neg (by simp [hd])]
    refine List.Sublist.append ?_ ?_
    · exact (List.sublist_append_left _ _).filter _
    · exact (List.sublist_cons_self _ _).filter _

/-- The chunks that fit on a line are words of the lines, in order. -/
theorem sublist_words_fillFrom {hw : 0 < width} {started : Bool} (h : AreChunks cs) :
    (cs.filter (fits width)).Sublist
      ((fillFrom width hw started cs).flatMap (words (· == ' '))) := by
  fun_induction fillFrom width hw started cs with
  | case1 => exact List.Sublist.refl _
  | case2 started cs hcs front hnil =>
    rw [← filter_fits_front started cs]
    show (front.filter _).Sublist _
    rw [hnil]
    exact List.Sublist.refl _
  | case3 started cs hcs front hfront taken rest htaken ih =>
    have hnext : (front.filter (fits width)).Sublist
        (taken.filter (fits width) ++ rest.filter (fits width)) := sublist_nextLine width front
    rw [htaken] at hnext
    rw [← filter_fits_front started cs]
    exact hnext.trans (ih (areChunks_rest (areChunks_front h started)))
  | case4 started cs hcs front hfront taken rest htaken ih =>
    have hnext : (front.filter (fits width)).Sublist
        (taken.filter (fits width) ++ rest.filter (fits width)) := sublist_nextLine width front
    have hchunks : AreChunks taken := areChunks_line (areChunks_front h started)
    have hline : (taken.filter (fits width)).Sublist (words (· == ' ') taken.flatten) := by
      rw [hchunks.words_flatten]
      refine List.monotone_filter_right taken ?_
      intro c hc
      simp [isSpaces_of_fits hc]
    rw [← filter_fits_front started cs, List.flatMap_cons]
    exact hnext.trans (hline.append (ih (areChunks_rest (areChunks_front h started))))

/-- The words of a text that fit on a line are words of its lines, in order. -/
theorem sublist_words_lines (hw : 0 < width) (s : List Char) :
    ((words isGap s).filter (fits width)).Sublist
      ((fillFrom width hw false (chunks (plain s))).flatMap (words isGap)) := by
  have hwords : (words isGap s).filter (fits width) = (chunks (plain s)).filter (fits width) := by
    rw [← filter_chunks_plain, List.filter_filter]
    refine List.filter_congr fun c _ => ?_
    cases hc : fits width c with
    | false => rfl
    | true => simp [isSpaces_of_fits hc]
  -- In the text that is filled the spaces are the only gaps.
  have hlines : ∀ line ∈ fillFrom width hw false (chunks (plain s)),
      words (· == ' ') line = words isGap line := by
    intro line hline
    have hpart := infix_of_mem_fillFrom hline
    rw [flatten_chunks] at hpart
    exact words_congr fun c hc => isGap_of_mem_plainGaps (hpart.subset hc)
  rw [hwords, ← List.flatMap_congr hlines]
  exact sublist_words_fillFrom (areChunks_chunks _)

/-! ## Wrapped texts -/

/-- The gaps other than the space. -/
def controlGaps : List Char := ['\t', '\n', '\x0b', '\x0c', '\r']

theorem not_mem_plain_of_mem_controlGaps {c : Char} (hc : c ∈ controlGaps) (s : List Char) :
    c ∉ plain s := by
  have hgaps : (controlGaps.all fun c => (c == ' ') != isGap c) = true := by decide
  intro hmem
  exact bne_iff_ne.mp (List.all_eq_true.mp hgaps c hc) (isGap_of_mem_plainGaps hmem)

/-- The lines that a text is wrapped into: at least one, none longer than the width, none
with a gap but spaces, and none empty unless it is the only one. In order they have all
visible characters of the text, and among their words all words of the text that fit on
a line. -/
structure IsWrapping (width : Nat) (s : List Char) (lines : List (List Char)) : Prop where
  ne_nil : lines ≠ []
  length_le : ∀ line ∈ lines, line.length ≤ width
  no_controlGap : ∀ line ∈ lines, ∀ c ∈ controlGaps, c ∉ line
  no_empty : lines = [[]] ∨ [] ∉ lines
  visible_eq : lines.flatMap visible = visible s
  unbroken : ((words isGap s).filter (fits width)).Sublist (lines.flatMap (words isGap))

theorem isWrapping_wrapChars (hw : 0 < width) (s : List Char) :
    IsWrapping width s (wrapChars width hw s) := by
  have hchunks : AreChunks (chunks (plain s)) := areChunks_chunks _
  have hvisible := visible_fillFrom hw false (chunks (plain s))
  have hunbroken := sublist_words_lines hw s
  rw [flatten_chunks, visible_plain] at hvisible
  unfold wrapChars
  rw [fill_joinLines]
  split
  next hnil =>
    rw [hnil] at hvisible hunbroken
    exact
      { ne_nil := List.cons_ne_nil _ _
        length_le := by simp
        no_controlGap := by simp
        no_empty := .inl rfl
        visible_eq := hvisible
        unbroken := hunbroken }
  next hsome =>
    exact
      { ne_nil := hsome
        length_le := fun line hline => length_le_of_mem_fillFrom hchunks hline
        no_controlGap := by
          intro line hline c hc hmem
          have hpart := infix_of_mem_fillFrom hline
          rw [flatten_chunks] at hpart
          exact not_mem_plain_of_mem_controlGaps hc s (hpart.subset hmem)
        no_empty := .inr fun hmem => ne_nil_of_mem_fillFrom hchunks hmem rfl
        visible_eq := hvisible
        unbroken := hunbroken }

/-- A word that fits on a line is in one, unless it is blank. -/
theorem exists_line_of_mem_words {hw : 0 < width} (hword : w ∈ words isGap s)
    (hblank : ¬ w.all isBlank = true) (hfits : w.length ≤ width) :
    ∃ line ∈ wrapChars width hw s, w <:+: line := by
  have hmem : w ∈ (words isGap s).filter (fits width) :=
    List.mem_filter.mpr ⟨hword, by simp [fits, hfits, hblank]⟩
  obtain ⟨line, hline, hin⟩ :=
    List.mem_flatMap.mp ((isWrapping_wrapChars hw s).unbroken.subset hmem)
  exact ⟨line, hline, infix_of_mem_words hin⟩

/-! ## Comments of any width -/

/-- A comment is wrapped into lines of any width that is positive, and into none of a width
that is not. -/
theorem wrapComment_outcome (text : String) (width : Int) :
    (1 ≤ width → ∃ lines, wrapComment? text width = .ok lines
        ∧ IsWrapping width.toNat text.toList (lines.map String.toList))
      ∧ (width ≤ 0 → wrapComment? text width = .error ⟨width⟩) := by
  unfold wrapComment?
  refine ⟨fun hwidth => ?_, fun hwidth => dif_neg (by omega)⟩
  have hw : 0 < width.toNat := by omega
  refine ⟨_, dif_pos hw, ?_⟩
  have hlines : ((wrapChars width.toNat hw text.toList).map String.ofList).map String.toList
      = wrapChars width.toNat hw text.toList := by
    simp [Function.comp_def]
  rw [hlines]
  exact isWrapping_wrapChars hw text.toList

/-- A comment with a tab, a word of a blank alone, a line break and a word that fits on no
line. -/
def dogComment : String := "Guide\t\u00a0 dogs\r\nlead  blindfolded people"

theorem dogComment_outcome :
    (1 : Int) ≤ 8
      ∧ (∃ lines, wrapComment? dogComment 8 = .ok lines
        ∧ lines = ["Guide", " dogs", "lead  bl", "indfolde", "d people"]
        ∧ IsWrapping 8 dogComment.toList (lines.map String.toList))
      ∧ (0 : Int) ≤ 0 ∧ wrapComment? dogComment 0 = .error ⟨0⟩ := by
  have hlines : wrapComment? dogComment 8
      = .ok ["Guide", " dogs", "lead  bl", "indfolde", "d people"] := by decide +kernel
  obtain ⟨lines, hfound, hwraps⟩ := (wrapComment_outcome dogComment 8).1 (by decide)
  refine ⟨by decide, ⟨lines, hfound, ?_, hwraps⟩, by decide, ?_⟩
  · rw [hlines] at hfound
    exact (Except.ok.inj hfound).symm
  · exact (wrapComment_outcome dogComment 0).2 (by decide)

end Ontogen.Text
