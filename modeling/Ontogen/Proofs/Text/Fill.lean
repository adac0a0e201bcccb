import Mathlib.Data.List.SplitBy
import Ontogen.Proofs.Text.Words
import Ontogen.Text.Fill

/-!
# What lines are filled with

The text that is filled has the words of the text that was given (`words_plain`), and its
chunks are these words and the spaces between them (`filter_chunks_plain`). A line takes
chunks as they are until its room is used up or a chunk comes that has to be cut
(`nextLine_cases`), and lines are parts of what is filled.

Main result: `infix_of_mem_wrapChars`. A part without gaps that is in a line is in the text.
-/

namespace Ontogen.Text

variable {width : Nat} {s w : List Char} {cs : List Chunk} {c : Chunk}

/-! ## Making gaps plain -/

theorem noGap_ne {c d : Char} (hw : NoGap isGap (c :: w)) (hd : isGap d = true) : c ≠ d := by
  intro h
  have hc := hw c (List.mem_cons_self ..)
  rw [h, hd] at hc
  cases hc

theorem NoGap.tail {p : Char → Bool} {c : Char} (hw : NoGap p (c :: w)) : NoGap p w :=
  fun d hd => hw d (List.mem_cons_of_mem _ hd)

theorem joinLines_append (hw : NoGap isGap w) (s : List Char) :
    joinLines (w ++ s) = w ++ joinLines s := by
  induction w with
  | nil => rfl
  | cons c w ih =>
    have hfeed : c ≠ '\n' := noGap_ne hw (by decide)
    have hreturn : c ≠ '\r' := noGap_ne hw (by decide)
    rw [List.cons_append, joinLines, if_neg hfeed, ih hw.tail]
    · rfl
    · intro t h _
      exact hreturn h

/-- What becomes of a line break is a gap. -/
theorem joinLines_gap {c : Char} (hc : isGap c = true) (s : List Char) :
    ∃ d t, isGap d = true ∧ joinLines (c :: s) = d :: t
      ∧ words isGap t = words isGap (joinLines s) := by
  have hspace : isGap ' ' = true := by decide
  by_cases hbreak : c = '\r' ∧ ∃ t, s = '\n' :: t
  · obtain ⟨hreturn, t, hfeed⟩ := hbreak
    refine ⟨' ', joinLines t, hspace, by rw [hreturn, hfeed, joinLines], ?_⟩
    have hjoined : joinLines s = ' ' :: joinLines t := by
      rw [hfeed, joinLines]
      · rfl
      · intro u h _
        cases h
    rw [hjoined, words_cons hspace]
  · refine ⟨if c = '\n' then ' ' else c, joinLines s, ?_, ?_, rfl⟩
    · split
      next => exact hspace
      next => exact hc
    · rw [joinLines]
      intro t hreturn hfeed
      exact hbreak ⟨hreturn, t, hfeed⟩

theorem words_joinLines (s : List Char) : words isGap (joinLines s) = words isGap s := by
  induction s using runs_induction isGap with
  | run w hw =>
    have h := joinLines_append hw []
    rw [List.append_nil] at h
    rw [h, joinLines, List.append_nil]
  | gap w c s hw hc ih =>
    obtain ⟨d, t, hd, hjoined, hwords⟩ := joinLines_gap hc s
    rw [joinLines_append hw, hjoined, words_append_cons hd, words_append_cons hc, hwords, ih]

theorem expandTabs_append (column : Nat) (hw : NoGap isGap w) (s : List Char) :
    expandTabs column (w ++ s) = w ++ expandTabs (column + w.length) s := by
  induction w generalizing column with
  | nil => rfl
  | cons c w ih =>
    have htab : c ≠ '\t' := noGap_ne hw (by decide)
    have hbreak : ¬ (c = '\n' ∨ c = '\r') := by
      intro h
      rcases h with h | h
      · exact noGap_ne hw (by decide) h
      · exact noGap_ne hw (by decide) h
    rw [List.cons_append, expandTabs, if_neg htab, if_neg hbreak, ih _ hw.tail,
      List.length_cons, Nat.add_right_comm]
    rfl

/-- A tab becomes one space at least. -/
theorem expandTabs_gap (column : Nat) {c : Char} (hc : isGap c = true) (s : List Char) :
    ∃ d g column', isGap d = true ∧ (∀ e ∈ g, isGap e = true)
      ∧ expandTabs column (c :: s) = d :: (g ++ expandTabs column' s) := by
  rw [expandTabs]
  split
  next =>
    have hroom : 8 - column % 8 = (7 - column % 8) + 1 := by omega
    refine ⟨' ', List.replicate (7 - column % 8) ' ', column + (8 - column % 8), by decide, ?_, ?_⟩
    · intro e he
      rw [List.eq_of_mem_replicate he]
      decide
    · rw [hroom, List.replicate_succ, List.cons_append]
  next =>
    refine ⟨c, [], _, hc, ?_, rfl⟩
    intro e he
    cases he

theorem words_expandTabs (column : Nat) (s : List Char) :
    words isGap (expandTabs column s) = words isGap s := by
  induction s using runs_induction isGap generalizing column with
  | run w hw =>
    have h := expandTabs_append column hw []
    rw [List.append_nil] at h
    rw [h, expandTabs, List.append_nil]
  | gap w c s hw hc ih =>
    obtain ⟨d, g, column', hd, hg, hexpanded⟩ := expandTabs_gap (column + w.length) hc s
    rw [expandTabs_append column hw, hexpanded, words_append_cons hd, words_append_cons hc,
      words_gap_append hg, ih]

theorem plainGaps_of_noGap (hw : NoGap isGap w) : plainGaps w = w := by
  rw [plainGaps]
  refine (List.map_congr_left fun c hc => ?_).trans (List.map_id w)
  simp [hw c hc]

theorem words_plainGaps (s : List Char) : words isGap (plainGaps s) = words isGap s := by
  induction s using runs_induction isGap with
  | run w hw => rw [plainGaps_of_noGap hw]
  | gap w c s hw hc ih =>
    have hsplit : plainGaps (w ++ c :: s) = w ++ ' ' :: plainGaps s := by
      have hfront := plainGaps_of_noGap hw
      rw [plainGaps] at hfront
      rw [plainGaps, List.map_append, List.map_cons, hfront, if_pos hc]
      rfl
    rw [hsplit, words_append_cons (by decide), words_append_cons hc, ih]

/-- The text that lines are filled with. -/
def plain (s : List Char) : List Char := plainGaps (expandTabs 0 (joinLines s))

theorem words_plain (s : List Char) : words isGap (plain s) = words isGap s := by
  rw [plain, words_plainGaps, words_expandTabs, words_joinLines]

/-! ## Chunks -/

/-- Only which characters of the text are in gaps matters for its words. -/
theorem words_congr {p q : Char → Bool} (h : ∀ c ∈ s, p c = q c) : words p s = words q s := by
  have hsplit : s.splitOnP p = s.splitOnP q := by
    induction s with
    | nil => rfl
    | cons c s ih =>
      rw [List.splitOnP_cons_eq_if_modifyHead, List.splitOnP_cons_eq_if_modifyHead,
        h c (List.mem_cons_self ..), ih fun d hd => h d (List.mem_cons_of_mem _ hd)]
  rw [words, words, hsplit]

theorem isGap_of_mem_plainGaps {c : Char} (hc : c ∈ plainGaps s) : (c == ' ') = isGap c := by
  obtain ⟨d, -, rfl⟩ := List.mem_map.mp hc
  split
  next => decide
  next hd =>
    rw [Bool.eq_false_iff.mpr hd, beq_eq_false_iff_ne]
    intro hspace
    rw [hspace] at hd
    exact hd (by decide)

/-- A chunk of spaces. -/
def isSpaces (c : Chunk) : Bool := c.all (· == ' ')

theorem chunks_run {b : Bool} (hne : w ≠ []) (hw : ∀ c ∈ w, (c == ' ') = b) :
    chunks w = [w] := by
  refine List.splitBy_of_isChain hne (List.Pairwise.isChain ?_)
  rw [List.pairwise_iff_forall_sublist]
  intro c d h
  have hc := hw c (h.subset (List.mem_cons_self ..))
  have hd := hw d (h.subset (List.mem_cons_of_mem _ (List.mem_cons_self ..)))
  simp [hc, hd]

/-- Runs of the two kinds are chunks apart. -/
theorem chunks_append {b : Bool} (hw : ∀ c ∈ w, (c == ' ') = b)
    (hs : ∀ c ∈ s.head?, (c == ' ') = !b) : chunks (w ++ s) = chunks w ++ chunks s := by
  refine List.splitBy_append fun c hc d hd => ?_
  rw [hw c (List.mem_of_mem_getLast? hc), hs d hd]
  cases b <;> rfl

theorem space_of_mem_replicate {n : Nat} {c : Char} (hc : c ∈ List.replicate n ' ') :
    (c == ' ') = true := by
  rw [List.eq_of_mem_replicate hc]
  rfl

theorem filter_chunks_spaces (n : Nat) :
    (chunks (List.replicate n ' ')).filter (fun c => !isSpaces c) = [] := by
  cases n with
  | zero => rfl
  | succ n =>
    rw [chunks_run (by simp) fun c hc => space_of_mem_replicate hc]
    simp [isSpaces]

theorem filter_chunks_word (hw : NoGap (· == ' ') w) :
    (chunks w).filter (fun c => !isSpaces c) = words (· == ' ') w := by
  rw [words_of_noGap hw]
  split
  next hnil =>
    rw [hnil]
    rfl
  next hne =>
    rw [chunks_run hne hw]
    obtain ⟨c, w, rfl⟩ := List.exists_cons_of_ne_nil hne
    have hc : (c == ' ') = false := hw c (List.mem_cons_self ..)
    simp [isSpaces, hc]

/-- The chunks that are not made of spaces are the words, with any number of spaces in
front. -/
theorem filter_chunks (n : Nat) (s : List Char) :
    (chunks (List.replicate n ' ' ++ s)).filter (fun c => !isSpaces c)
      = words (· == ' ') s := by
  have hfront : ∀ c ∈ List.replicate n ' ', (c == ' ') = true :=
    fun c hc => space_of_mem_replicate hc
  induction s using runs_induction (· == ' ') generalizing n with
  | run w hw =>
    rw [chunks_append hfront fun c hc => hw c (List.mem_of_mem_head? hc), List.filter_append,
      filter_chunks_spaces, filter_chunks_word hw, List.nil_append]
  | gap w c s hw hc ih =>
    obtain rfl : c = ' ' := by simpa using hc
    have hwords : words (· == ' ') (w ++ ' ' :: s) = words (· == ' ') w ++ words (· == ' ') s :=
      words_append_cons (by decide) w s
    rw [hwords]
    -- Without a word before it the space is one of those in front.
    by_cases hne : w = []
    · have hjoin : List.replicate n ' ' ++ ([] ++ ' ' :: s) = List.replicate (n + 1) ' ' ++ s := by
        rw [List.replicate_succ', List.append_assoc]
        rfl
      rw [hne, hjoin, ih (n + 1) fun c hc => space_of_mem_replicate hc]
      rfl
    · have hhead : ∀ c ∈ (w ++ ' ' :: s).head?, (c == ' ') = !true := by
        intro c hc
        obtain ⟨d, v, rfl⟩ := List.exists_cons_of_ne_nil hne
        obtain rfl := Option.some.inj hc
        exact hw d (List.mem_cons_self ..)
      have hnext := ih 1 fun c hc => space_of_mem_replicate hc
      rw [chunks_append hfront hhead, chunks_append hw (by simp), List.filter_append,
        List.filter_append, filter_chunks_spaces, filter_chunks_word hw, List.nil_append]
      exact congrArg (words _ w ++ ·) hnext

/-- The words of the text are the chunks that are not made of spaces. -/
theorem filter_chunks_plain (s : List Char) :
    (chunks (plain s)).filter (fun c => !isSpaces c) = words isGap s := by
  rw [← words_plain, plain, ← words_congr fun c hc => isGap_of_mem_plainGaps hc]
  exact filter_chunks 0 _

/-! ## Lines -/

theorem takeFitting_append (room : Nat) (cs : List Chunk) :
    (takeFitting room cs).1 ++ (takeFitting room cs).2 = cs := by
  induction cs generalizing room with
  | nil => rfl
  | cons c cs ih =>
    rw [takeFitting]
    split
    next => rw [List.cons_append, ih]
    next => rfl

theorem extent_takeFitting_le (room : Nat) (cs : List Chunk) :
    extent (takeFitting room cs).1 ≤ room := by
  induction cs generalizing room with
  | nil => simp [takeFitting, extent]
  | cons c cs ih =>
    rw [takeFitting]
    by_cases hc : c.length ≤ room
    · rw [if_pos hc]
      have hrest := ih (room - c.length)
      show c.length + extent (takeFitting (room - c.length) cs).1 ≤ room
      omega
    · rw [if_neg hc]
      exact Nat.zero_le room

/-- A line takes chunks as they are, or after them it fills the room that is left with a
part of one that is too long for any line. -/
theorem nextLine_cases (width : Nat) (cs : List Chunk) :
    ((nextLine width cs).1 ++ (nextLine width cs).2 = cs ∧ extent (nextLine width cs).1 ≤ width)
      ∨ ∃ taken d rest room, cs = taken ++ d :: rest ∧ width < d.length
        ∧ extent taken + room = width
        ∧ nextLine width cs = (taken ++ [d.take room], d.drop room :: rest) := by
  have hparts := takeFitting_append width cs
  have hextent := extent_takeFitting_le width cs
  unfold nextLine
  generalize takeFitting width cs = fitting at hparts hextent ⊢
  obtain ⟨taken, left⟩ := fitting
  cases left with
  | nil => exact .inl ⟨hparts, hextent⟩
  | cons d rest =>
    dsimp only at hparts hextent ⊢
    by_cases hlong : width < d.length
    · rw [if_pos hlong]
      refine .inr ⟨taken, d, rest, width - extent taken, hparts.symm, hlong, ?_, rfl⟩
      omega
    · rw [if_neg hlong]
      exact .inl ⟨hparts, hextent⟩

/-- A line and what is left are what there was. -/
theorem flatten_nextLine (width : Nat) (cs : List Chunk) :
    (nextLine width cs).1.flatten ++ (nextLine width cs).2.flatten = cs.flatten := by
  rcases nextLine_cases width cs with ⟨h, -⟩ | ⟨taken, d, rest, room, hcs, -, -, hline⟩
  · rw [← List.flatten_append, h]
  · rw [hline, hcs, List.flatten_append, List.flatten_append, List.flatten_cons,
      List.flatten_cons, List.flatten_cons, List.flatten_nil, List.append_nil, List.append_assoc,
      ← List.append_assoc (d.take room), List.take_append_drop]

theorem suffix_dropLeading (cs : List Chunk) : dropLeading cs <:+ cs := by
  cases cs with
  | nil => exact List.suffix_refl _
  | cons c cs =>
    rw [dropLeading]
    split
    next => exact List.suffix_cons c cs
    next => exact List.suffix_refl _

theorem prefix_dropTrailing (cs : List Chunk) : dropTrailing cs <+: cs := by
  rw [dropTrailing]
  split
  next =>
    split
    next => exact List.dropLast_prefix cs
    next => exact List.prefix_refl _
  next => exact List.nil_prefix

theorem suffix_flatten {cs ds : List Chunk} (h : cs <:+ ds) : cs.flatten <:+ ds.flatten := by
  obtain ⟨front, rfl⟩ := h
  rw [List.flatten_append]
  exact List.suffix_append _ _

theorem prefix_flatten {cs ds : List Chunk} (h : cs <+: ds) : cs.flatten <+: ds.flatten := by
  obtain ⟨back, rfl⟩ := h
  rw [List.flatten_append]
  exact List.prefix_append _ _

/-- What a line is taken from is at the end of what there was. -/
theorem suffix_front (started : Bool) (cs : List Chunk) :
    (if started then dropLeading cs else cs) <:+ cs := by
  split
  next => exact suffix_dropLeading cs
  next => exact List.suffix_refl cs

/-- What is left after a line is at the end of what there was before it. -/
theorem infix_rest (width : Nat) (started : Bool) (cs : List Chunk) :
    (nextLine width (if started then dropLeading cs else cs)).2.flatten <:+: cs.flatten := by
  refine List.IsInfix.trans ?_ (suffix_flatten (suffix_front started cs)).isInfix
  rw [← flatten_nextLine width (if started then dropLeading cs else cs)]
  exact (List.suffix_append _ _).isInfix

/-- Every line is a part of what is filled. -/
theorem infix_of_mem_fillFrom {hw : 0 < width} {started : Bool} {line : List Char}
    (h : line ∈ fillFrom width hw started cs) : line <:+: cs.flatten := by
  fun_induction fillFrom width hw started cs with
  | case1 => cases h
  | case2 => cases h
  | case3 started cs hcs front hfront taken rest htaken ih =>
    exact (ih h).trans (infix_rest width started cs)
  | case4 started cs hcs front hfront taken rest htaken ih =>
    rcases List.mem_cons.mp h with h | h
    · rw [h]
      have hline : taken.flatten <+: (nextLine width front).1.flatten :=
        prefix_flatten (prefix_dropTrailing _)
      have hall : (nextLine width front).1.flatten <+: front.flatten := by
        rw [← flatten_nextLine width front]
        exact List.prefix_append _ _
      exact (hline.trans hall).isInfix.trans (suffix_flatten (suffix_front started cs)).isInfix
    · exact (ih h).trans (infix_rest width started cs)

/-! ## Wrapped texts -/

theorem flatten_chunks (s : List Char) : (chunks s).flatten = s := List.flatten_splitBy _ s

theorem fill_joinLines (hw : 0 < width) (s : List Char) :
    fill width hw (joinLines s) = fillFrom width hw false (chunks (plain s)) := rfl

/-- A part of a line without gaps is a part of the text. -/
theorem infix_of_mem_wrapChars {hw : 0 < width} {line v : List Char}
    (hline : line ∈ wrapChars width hw s) (hv : NoGap isGap v) (hne : v ≠ [])
    (h : v <:+: line) : v <:+: s := by
  rw [wrapChars] at hline
  split at hline
  next =>
    rw [List.mem_singleton.mp hline, List.infix_nil] at h
    exact absurd h hne
  next =>
    rw [fill_joinLines] at hline
    have hplain := infix_of_mem_fillFrom hline
    rw [flatten_chunks] at hplain
    exact (infix_congr hv hne (words_plain s)).mp (h.trans hplain)

end Ontogen.Text
