import Mathlib.Data.List.TakeWhile
import Ontogen.Text.Blank

/-!
# Words

A text is words with gaps between them: a word is a maximal run of characters that are in no
gap. Only the order of the words tells which texts without gaps are part of a text
(`infix_iff_exists_word`), so a text that keeps its words keeps these parts.

Main result: `words_squeeze`. Squeezing a text keeps its words.
-/

namespace Ontogen.Text

variable {p : Char → Bool} {s t w g : List Char}

/-- The words of a text, for the characters that make up gaps. -/
def words (p : Char → Bool) (s : List Char) : List (List Char) :=
  (s.splitOnP p).filter fun w => !w.isEmpty

/-- A text in which there are no gaps. -/
def NoGap (p : Char → Bool) (s : List Char) : Prop := ∀ c ∈ s, p c = false

instance (p : Char → Bool) (s : List Char) : Decidable (NoGap p s) :=
  List.decidableBAll (fun c => p c = false) s

theorem noGap_append_iff : NoGap p (s ++ t) ↔ NoGap p s ∧ NoGap p t := List.forall_mem_append

/-- A text is a run without gaps, or such a run, a character of a gap and a further text. -/
theorem runs_induction {P : List Char → Prop} (p : Char → Bool)
    (run : ∀ w, NoGap p w → P w)
    (gap : ∀ w c s, NoGap p w → p c = true → P s → P (w ++ c :: s)) (s : List Char) : P s := by
  -- The run in front grows until a gap comes.
  have h : ∀ (s w : List Char), NoGap p w → P (w ++ s) := by
    intro s
    induction s with
    | nil =>
      intro w hw
      rw [List.append_nil]
      exact run w hw
    | cons c s ih =>
      intro w hw
      cases hc : p c with
      | true =>
        refine gap w c s hw hc ?_
        exact ih [] fun c hc => by cases hc
      | false =>
        have hgrown : NoGap p (w ++ [c]) := by
          intro d hd
          rcases List.mem_append.mp hd with hd | hd
          · exact hw d hd
          · rw [List.mem_singleton.mp hd]
            exact hc
        have hstep := ih (w ++ [c]) hgrown
        rwa [List.append_assoc, List.cons_append, List.nil_append] at hstep
  exact h s [] fun c hc => by cases hc

/-! ## The words of parts -/

theorem words_of_noGap (hw : NoGap p w) : words p w = if w = [] then [] else [w] := by
  rw [words, List.splitOnP_eq_singleton hw]
  cases w <;> rfl

/-- A character of a gap parts the words before it from those after it. -/
theorem words_append_cons {c : Char} (hc : p c = true) (s t : List Char) :
    words p (s ++ c :: t) = words p s ++ words p t := by
  rw [words, List.splitOnP_append_cons s t hc, List.filter_append]
  rfl

theorem words_cons {c : Char} (hc : p c = true) (s : List Char) :
    words p (c :: s) = words p s := words_append_cons hc [] s

/-- A gap in front is no part of a word. -/
theorem words_gap_append (hg : ∀ c ∈ g, p c = true) (s : List Char) :
    words p (g ++ s) = words p s := by
  induction g with
  | nil => rfl
  | cons c g ih =>
    rw [List.cons_append, words_cons (hg c (List.mem_cons_self ..))]
    exact ih fun d hd => hg d (List.mem_cons_of_mem _ hd)

theorem words_append_gap (hg : ∀ c ∈ g, p c = true) (s : List Char) :
    words p (s ++ g) = words p s := by
  cases g with
  | nil => rw [List.append_nil]
  | cons c g =>
    have hrest : words p g = [] := by
      rw [← List.append_nil g, words_gap_append fun d hd => hg d (List.mem_cons_of_mem _ hd)]
      rfl
    rw [words_append_cons (hg c (List.mem_cons_self ..)), hrest, List.append_nil]

/-! ## Parts without gaps -/

/-- A part without gaps is on one side of a gap. -/
theorem infix_append_cons_iff {c : Char} (hw : NoGap p w) (hc : p c = true) :
    w <:+: s ++ c :: t ↔ w <:+: s ∨ w <:+: t := by
  constructor
  · intro h
    rcases List.infix_append_iff.mp h with h | h | ⟨front, back, hparts, hfront, hback⟩
    · exact .inl h
    · rcases List.infix_cons_iff.mp h with h | h
      · rcases List.prefix_cons_iff.mp h with h | ⟨_, h, -⟩
        · rw [h]
          exact .inl List.nil_infix
        · have hfree : p c = false := hw c (by rw [h]; exact List.mem_cons_self ..)
          rw [hc] at hfree
          cases hfree
      · exact .inr h
    · rcases List.prefix_cons_iff.mp hback with h | ⟨_, h, -⟩
      · rw [hparts, h, List.append_nil]
        exact .inl hfront.isInfix
      · have hfree : p c = false := hw c (by rw [hparts, h]; simp)
        rw [hc] at hfree
        cases hfree
  · intro h
    rcases h with h | h
    · exact h.trans (List.infix_append_of_infix_left (List.infix_refl s))
    · exact h.trans ((List.suffix_cons c t).trans (List.suffix_append s (c :: t))).isInfix

/-- A part without gaps is a part of a word. -/
theorem infix_iff_exists_word (hw : NoGap p w) (hne : w ≠ []) (s : List Char) :
    w <:+: s ↔ ∃ v ∈ words p s, w <:+: v := by
  induction s using runs_induction p with
  | run v hv =>
    rw [words_of_noGap hv]
    split
    next hnil =>
      rw [hnil]
      simp [hne]
    next => simp
  | gap v c s hv hc ih =>
    rw [infix_append_cons_iff hw hc, words_append_cons hc, words_of_noGap hv, ih]
    split
    next hnil =>
      rw [hnil]
      simp [hne]
    next => simp

theorem eq_of_mem_words {v : List Char} (hv : NoGap p v) (h : w ∈ words p v) : w = v := by
  rw [words_of_noGap hv] at h
  split at h
  next => cases h
  next => exact List.mem_singleton.mp h

/-- A word is a part of the text. -/
theorem infix_of_mem_words (h : w ∈ words p s) : w <:+: s := by
  induction s using runs_induction p with
  | run v hv =>
    obtain rfl := eq_of_mem_words hv h
    exact List.infix_refl w
  | gap v c s hv hc ih =>
    rw [words_append_cons hc, List.mem_append] at h
    rcases h with h | h
    · rw [eq_of_mem_words hv h]
      exact (List.prefix_append v _).isInfix
    · exact (ih h).trans ((List.suffix_cons c s).trans (List.suffix_append v _)).isInfix

/-- Texts with the same words have the same parts without gaps. -/
theorem infix_congr (hw : NoGap p w) (hne : w ≠ []) (h : words p s = words p t) :
    w <:+: s ↔ w <:+: t := by
  rw [infix_iff_exists_word hw hne, infix_iff_exists_word hw hne, h]

/-! ## Squeezed texts -/

theorem words_dropWhile (p : Char → Bool) (s : List Char) :
    words p (s.dropWhile p) = words p s := by
  have hfront : ∀ c ∈ s.takeWhile p, p c = true := fun c hc => List.mem_takeWhile_imp hc
  rw [← words_gap_append hfront (s.dropWhile p), List.takeWhile_append_dropWhile]

theorem words_trimEnd (s : List Char) : words isBlank (trimEnd s) = words isBlank s := by
  have hback : ∀ c ∈ (s.reverse.takeWhile isBlank).reverse, isBlank c = true := by
    intro c hc
    rw [List.mem_reverse] at hc
    exact List.mem_takeWhile_imp hc
  have hparts : trimEnd s ++ (s.reverse.takeWhile isBlank).reverse = s := by
    rw [trimEnd, ← List.reverse_append, List.takeWhile_append_dropWhile, List.reverse_reverse]
  rw [← words_append_gap hback (trimEnd s), hparts]

theorem words_trim (s : List Char) : words isBlank (trim s) = words isBlank s := by
  rw [trim, words_trimEnd, words_dropWhile]

theorem collapseFrom_append (inRun : Bool) (hw : NoGap isBlank w) (hne : w ≠ [])
    (s : List Char) : collapseFrom inRun (w ++ s) = w ++ collapseFrom false s := by
  induction w generalizing inRun with
  | nil => exact absurd rfl hne
  | cons c w ih =>
    have hc : ¬ isBlank c = true := by simp [hw c (List.mem_cons_self ..)]
    rw [List.cons_append, collapseFrom, if_neg hc]
    cases w with
    | nil => rfl
    | cons d w =>
      rw [ih false (fun e he => hw e (List.mem_cons_of_mem _ he)) (List.cons_ne_nil _ _)]
      rfl

/-- What is written for a gap is a gap. -/
theorem words_collapseFrom (inRun : Bool) (s : List Char) :
    words isBlank (collapseFrom inRun s) = words isBlank s := by
  induction s using runs_induction isBlank generalizing inRun with
  | run w hw =>
    by_cases hne : w = []
    · rw [hne]
      rfl
    · have h := collapseFrom_append inRun hw hne []
      rw [List.append_nil] at h
      rw [h, collapseFrom, List.append_nil]
  | gap w c s hw hc ih =>
    have hgap : ∀ b, words isBlank (collapseFrom b (c :: s)) = words isBlank s := by
      intro b
      rw [collapseFrom, if_pos hc]
      cases b with
      | true => exact ih true
      | false => exact (words_cons isBlank_space _).trans (ih true)
    by_cases hne : w = []
    · rw [hne]
      exact (hgap inRun).trans (words_cons hc s).symm
    · rw [collapseFrom_append inRun hw hne, collapseFrom, if_pos hc, if_neg (by simp),
        words_append_cons isBlank_space, words_append_cons hc, ih]

/-- Squeezing keeps the words of a text. -/
theorem words_squeeze (s : List Char) : words isBlank (squeeze s) = words isBlank s := by
  rw [squeeze, words_trim, collapse, words_collapseFrom]

end Ontogen.Text
