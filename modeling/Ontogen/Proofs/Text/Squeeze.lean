import Ontogen.Proofs.Text.Layout
import Ontogen.Proofs.Text.Words

/-!
# Squeezed texts

A text is squeezed in two steps: every gap in it becomes one space, and the blanks at its two
ends are dropped. Collapsing the gaps leaves the words with single spaces between them and
a gap at most before and after them (`collapseFrom_eq`, `collapse_eq`), and since words begin
and end with characters that are not blank, trimming takes away just these two gaps
(`trim_append_append`).

Main result: `squeeze_eq_spread`. To squeeze a text is to write its words with single spaces
between them, so a squeezed text stays as it is (`squeeze_squeeze`) and has no blanks but spaces
(`eq_space_of_mem_squeeze`).
-/

namespace Ontogen.Text

variable {p : Char → Bool} {s w : List Char} {ws : List (List Char)}

/-! ## Words -/

theorem ne_nil_of_mem_words (h : w ∈ words p s) : w ≠ [] := by
  have hkept := (List.mem_filter.mp h).2
  intro hnil
  rw [hnil] at hkept
  cases hkept

theorem noGap_of_mem_words (h : w ∈ words p s) : NoGap p w := by
  induction s using runs_induction p with
  | run v hv => rwa [eq_of_mem_words hv h]
  | gap v c s hv hc ih =>
    rw [words_append_cons hc, List.mem_append] at h
    rcases h with h | h
    · rwa [eq_of_mem_words hv h]
    · exact ih h

/-! ## Spread words -/

theorem head?_spread {v : List Char} (hv : v ≠ []) (vs : List (List Char)) :
    (spread (v :: vs)).head? = v.head? := by
  obtain ⟨c, v, rfl⟩ := List.exists_cons_of_ne_nil hv
  by_cases hnil : vs = []
  · rw [hnil, spread_singleton]
  · rw [spread_cons hnil]
    rfl

theorem getLast?_spread {v : List Char} (hv : v ≠ []) (vs : List (List Char)) :
    (spread (vs ++ [v])).getLast? = v.getLast? := by
  by_cases hnil : vs = []
  · rw [hnil, List.nil_append, spread_singleton]
  · rw [spread_append hnil (List.cons_ne_nil v []), spread_singleton, List.getLast?_append,
      List.getLast?_cons_of_ne_nil hv, List.getLast?_eq_some_getLast hv]
    rfl

/-- Spaces are the only gaps in words with single spaces between them. -/
theorem eq_space_of_mem_spread (hws : ∀ w ∈ ws, NoGap p w) {c : Char} (hc : c ∈ spread ws)
    (hgap : p c = true) : c = ' ' := by
  induction ws with
  | nil => cases hc
  | cons w ws ih =>
    have hw : c ∉ w := by
      intro hmem
      rw [hws w (List.mem_cons_self ..) c hmem] at hgap
      cases hgap
    by_cases hnil : ws = []
    · rw [hnil, spread_singleton] at hc
      exact absurd hc hw
    · rw [spread_cons hnil, List.mem_append, List.mem_cons] at hc
      rcases hc with hc | hc | hc
      · exact absurd hc hw
      · exact hc
      · exact ih (fun v hv => hws v (List.mem_cons_of_mem _ hv)) hc

/-- Words with spaces between them do not begin with a gap. -/
theorem not_gap_of_head?_spread (hne : ∀ w ∈ ws, w ≠ []) (hws : ∀ w ∈ ws, NoGap p w) :
    ∀ c ∈ (spread ws).head?, p c = false := by
  intro c hc
  cases ws with
  | nil => cases hc
  | cons w ws =>
    rw [head?_spread (hne w (List.mem_cons_self ..))] at hc
    exact hws w (List.mem_cons_self ..) c (List.mem_of_mem_head? hc)

/-- Words with spaces between them do not end with a gap. -/
theorem not_gap_of_getLast?_spread (hne : ∀ w ∈ ws, w ≠ []) (hws : ∀ w ∈ ws, NoGap p w) :
    ∀ c ∈ (spread ws).getLast?, p c = false := by
  intro c hc
  rcases List.eq_nil_or_concat ws with rfl | ⟨vs, v, rfl⟩
  · cases hc
  · rw [List.concat_eq_append] at hne hws hc
    have hv : v ∈ vs ++ [v] := List.mem_append_right vs (List.mem_singleton_self v)
    rw [getLast?_spread (hne v hv)] at hc
    exact hws v hv c (List.mem_of_getLast? hc)

/-! ## Trimming -/

theorem trimEnd_append (hlast : ∀ c ∈ s.getLast?, isBlank c = false) {back : List Char}
    (hback : ∀ c ∈ back, isBlank c = true) : trimEnd (s ++ back) = s := by
  have hstop : s.reverse.dropWhile isBlank = s.reverse := by
    cases hs : s.reverse with
    | nil => rfl
    | cons c t =>
      have hc : isBlank c = false := hlast c (by rw [List.getLast?_eq_head?_reverse, hs]; rfl)
      exact List.dropWhile_cons_of_neg (by simp [hc])
  rw [trimEnd, List.reverse_append,
    List.dropWhile_append_of_pos fun c hc => hback c (List.mem_reverse.mp hc), hstop,
    List.reverse_reverse]

/-- Trimming takes away gaps at the two ends of a text that neither begins nor ends with one. -/
theorem trim_append_append {front back : List Char} (hfront : ∀ c ∈ front, isBlank c = true)
    (hback : ∀ c ∈ back, isBlank c = true) (hhead : ∀ c ∈ s.head?, isBlank c = false)
    (hlast : ∀ c ∈ s.getLast?, isBlank c = false) : trim (front ++ (s ++ back)) = s := by
  rw [trim, List.dropWhile_append_of_pos hfront]
  cases s with
  | nil =>
    rw [List.nil_append, List.dropWhile_eq_nil_iff.mpr hback]
    rfl
  | cons c s =>
    have hc : ¬ isBlank c = true := by simp [hhead c rfl]
    rw [List.cons_append, List.dropWhile_cons_of_neg hc, ← List.cons_append]
    exact trimEnd_append hlast hback

/-! ## Collapsing -/

/-- In a run of blanks the words of the text that follows are written with single spaces between
them, and maybe a gap after the last one. -/
theorem collapseFrom_eq (s : List Char) : ∃ back, (∀ c ∈ back, isBlank c = true)
    ∧ (words isBlank s = [] → back = [])
    ∧ collapseFrom true s = spread (words isBlank s) ++ back := by
  induction s using runs_induction isBlank with
  | run w hw =>
    refine ⟨[], List.forall_mem_nil _, fun _ => rfl, ?_⟩
    rw [words_of_noGap hw, List.append_nil]
    split
    next hnil => rw [hnil]; rfl
    next hne =>
      have hwritten := collapseFrom_append true hw hne []
      rw [List.append_nil] at hwritten
      rw [hwritten, collapseFrom, List.append_nil, spread_singleton]
  | gap w c s hw hc ih =>
    obtain ⟨back, hback, hnone, heq⟩ := ih
    by_cases hne : w = []
    · refine ⟨back, hback, ?_, ?_⟩
      · rwa [hne, List.nil_append, words_cons hc]
      · rw [hne, List.nil_append, words_cons hc, collapseFrom, if_pos hc, if_pos rfl, heq]
    · have hwritten : collapseFrom true (w ++ c :: s)
          = w ++ ' ' :: (spread (words isBlank s) ++ back) := by
        rw [collapseFrom_append true hw hne, collapseFrom, if_pos hc, if_neg (by simp), heq]
      rw [words_append_cons hc, words_of_noGap hw, if_neg hne, hwritten]
      by_cases hnil : words isBlank s = []
      · -- The gap after the last word is written as one space.
        refine ⟨[' '], List.forall_mem_singleton.mpr isBlank_space,
          fun h => absurd h (List.cons_ne_nil _ _), ?_⟩
        rw [hnil, hnone hnil, List.append_nil, List.append_nil, spread_singleton]
        rfl
      · refine ⟨back, hback, fun h => absurd h (List.cons_ne_nil _ _), ?_⟩
        rw [List.singleton_append, spread_cons hnil, List.append_assoc, List.cons_append]

theorem collapse_eq (s : List Char) :
    ∃ front, (∀ c ∈ front, isBlank c = true) ∧ collapse s = front ++ collapseFrom true s := by
  rw [collapse]
  cases s with
  | nil => exact ⟨[], List.forall_mem_nil _, rfl⟩
  | cons c s =>
    rw [collapseFrom, collapseFrom]
    split
    next => exact ⟨[' '], List.forall_mem_singleton.mpr isBlank_space, rfl⟩
    next => exact ⟨[], List.forall_mem_nil _, rfl⟩

/-! ## Squeezing -/

/-- A squeezed text is its words with single spaces between them. -/
theorem squeeze_eq_spread (s : List Char) : squeeze s = spread (words isBlank s) := by
  have hne : ∀ w ∈ words isBlank s, w ≠ [] := fun _ hw => ne_nil_of_mem_words hw
  have hws : ∀ w ∈ words isBlank s, NoGap isBlank w := fun _ hw => noGap_of_mem_words hw
  obtain ⟨front, hfront, hcollapse⟩ := collapse_eq s
  obtain ⟨back, hback, -, hwritten⟩ := collapseFrom_eq s
  rw [squeeze, hcollapse, hwritten]
  exact trim_append_append hfront hback (not_gap_of_head?_spread hne hws)
    (not_gap_of_getLast?_spread hne hws)

/-- Squeezing once is enough. -/
theorem squeeze_squeeze (s : List Char) : squeeze (squeeze s) = squeeze s := by
  rw [squeeze_eq_spread, words_squeeze, ← squeeze_eq_spread]

/-- A squeezed text has no other blanks than spaces. -/
theorem eq_space_of_mem_squeeze {c : Char} (h : c ∈ squeeze s) (hc : isBlank c = true) :
    c = ' ' := by
  rw [squeeze_eq_spread] at h
  exact eq_space_of_mem_spread (fun _ hw => noGap_of_mem_words hw) h hc

end Ontogen.Text
