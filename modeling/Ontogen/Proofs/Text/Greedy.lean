import Ontogen.Proofs.Text.Lines
import Ontogen.Proofs.Text.Squeeze

/-!
# Words that fit on lines

A text of words with one separator between any two of them, none of the words longer than a
line, is filled without cutting a word: each line takes words until the next one does not fit
(`nextLine_spaced`), and the one separator at which the line is broken is dropped at its end
or at the front of the next. So the lines are a full layout of the words (`fillFrom_spaced`).

Main result: `wrapComment_words`.
-/

namespace Ontogen.Text

/-- A word that has a line to itself at least: it is not empty, no longer than a line, and has
no blank in it. -/
structure IsShortWord (width : Nat) (w : List Char) : Prop where
  ne_nil : w ≠ []
  length_le : w.length ≤ width
  noBlank : NoGap isBlank w

instance (width : Nat) (w : List Char) : Decidable (IsShortWord width w) :=
  decidable_of_iff (w ≠ [] ∧ w.length ≤ width ∧ NoGap isBlank w)
    ⟨fun h => ⟨h.1, h.2.1, h.2.2⟩, fun h => ⟨h.ne_nil, h.length_le, h.noBlank⟩⟩

variable {width : Nat} {w s : List Char} {ws : List (List Char)}

theorem IsShortWord.not_blank (h : IsShortWord width w) : ¬ w.all isBlank = true := by
  obtain ⟨c, w, rfl⟩ := List.exists_cons_of_ne_nil h.ne_nil
  have hc : isBlank c = false := h.noBlank c (List.mem_cons_self ..)
  simp [hc]

theorem IsShortWord.noGap (h : IsShortWord width w) : NoGap isGap w := by
  intro c hc
  rw [Bool.eq_false_iff]
  intro hgap
  have hblank := h.noBlank c hc
  rw [isBlank_of_isGap hgap] at hblank
  cases hblank

theorem IsShortWord.noSpace (h : IsShortWord width w) : NoGap (· == ' ') w := by
  intro c hc
  rw [beq_eq_false_iff_ne]
  intro hspace
  have hblank := h.noBlank c hc
  rw [hspace, isBlank_space] at hblank
  cases hblank

/-! ## The chunks of spread words -/

/-- The chunks of words with a space in front of each of them. -/
def led (ws : List (List Char)) : List Chunk := ws.flatMap fun w => [[' '], w]

/-- The chunks of words with single spaces between them. -/
def spaced : List (List Char) → List Chunk
  | [] => []
  | w :: ws => w :: led ws

theorem led_cons (w : List Char) (ws : List (List Char)) :
    led (w :: ws) = [' '] :: w :: led ws := rfl

theorem flatten_led (hws : ws ≠ []) : (led ws).flatten = ' ' :: spread ws := by
  induction ws with
  | nil => exact absurd rfl hws
  | cons w ws ih =>
    rw [led_cons, List.flatten_cons, List.flatten_cons]
    by_cases hnil : ws = []
    · rw [hnil, spread_singleton]
      show [' '] ++ (w ++ []) = _
      rw [List.append_nil]
      rfl
    · rw [ih hnil, spread_cons hnil]
      rfl

theorem flatten_spaced (ws : List (List Char)) : (spaced ws).flatten = spread ws := by
  cases ws with
  | nil => rfl
  | cons w ws =>
    show w ++ (led ws).flatten = _
    by_cases hnil : ws = []
    · rw [hnil, spread_singleton]
      exact List.append_nil w
    · rw [flatten_led hnil, spread_cons hnil]

/-- The last chunk is the last word. -/
theorem getLast?_spaced (ws : List (List Char)) : (spaced ws).getLast? = ws.getLast? := by
  rcases List.eq_nil_or_concat ws with rfl | ⟨vs, v, rfl⟩
  · rfl
  · rw [List.concat_eq_append]
    cases vs with
    | nil => rfl
    | cons w vs =>
      have hend : spaced ((w :: vs) ++ [v]) = (w :: led vs ++ [[' ']]) ++ [v] := by
        show w :: led (vs ++ [v]) = _
        simp [led]
      rw [hend, List.getLast?_concat, List.getLast?_concat]

theorem chunks_spread (hws : ∀ w ∈ ws, IsShortWord width w) : chunks (spread ws) = spaced ws := by
  induction ws with
  | nil => rfl
  | cons w ws ih =>
    have hw : IsShortWord width w := hws w (List.mem_cons_self ..)
    have hword : chunks w = [w] := chunks_run hw.ne_nil hw.noSpace
    cases ws with
    | nil => rw [spread_singleton, hword]; rfl
    | cons v vs =>
      have hv : IsShortWord width v := hws v (List.mem_cons_of_mem _ (List.mem_cons_self ..))
      have hrest := ih fun u hu => hws u (List.mem_cons_of_mem _ hu)
      have hspace : chunks (' ' :: spread (v :: vs)) = [' '] :: spaced (v :: vs) := by
        have happend := chunks_append (w := [' ']) (s := spread (v :: vs)) (b := true)
          (by simp) ?_
        · rw [List.singleton_append, hrest] at happend
          exact happend
        · intro c hc
          rw [head?_spread hv.ne_nil] at hc
          exact hv.noSpace c (List.mem_of_mem_head? hc)
      rw [spread_cons (List.cons_ne_nil _ _), chunks_append hw.noSpace (by simp), hword, hspace]
      rfl

/-! ## Taking a line -/

/-- A row of words is taken until the next one does not fit; the space before that one may
still be taken. -/
theorem takeFitting_led (room : Nat) (ws : List (List Char)) : ∃ taken rest, ws = taken ++ rest
    ∧ needed taken ≤ room ∧ (∀ w ∈ rest.head?, room < needed taken + 1 + w.length)
    ∧ (takeFitting room (led ws) = (led taken, led rest)
      ∨ ∃ w ws', rest = w :: ws'
        ∧ takeFitting room (led ws) = (led taken ++ [[' ']], w :: led ws')) := by
  induction ws generalizing room with
  | nil => exact ⟨[], [], rfl, Nat.zero_le _, by simp, .inl rfl⟩
  | cons w ws ih =>
    rw [led_cons, takeFitting, takeFitting]
    by_cases hspace : 1 ≤ room
    · rw [if_pos (show [' '].length ≤ room from hspace)]
      by_cases hword : w.length ≤ room - [' '].length
      · rw [if_pos hword]
        obtain ⟨taken, rest, rfl, hneeded, hfull, hcut⟩ := ih (room - [' '].length - w.length)
        have hlength : [' '].length = 1 := rfl
        rw [hlength] at hword hneeded hfull hcut ⊢
        refine ⟨w :: taken, rest, rfl, ?_, ?_, ?_⟩
        · rw [needed_cons]
          omega
        · intro v hv
          have hroom := hfull v hv
          rw [needed_cons]
          omega
        · rcases hcut with hcut | ⟨v, vs, hrest, hcut⟩
          · rw [hcut]
            exact .inl rfl
          · rw [hcut]
            exact .inr ⟨v, vs, hrest, rfl⟩
      · rw [if_neg hword]
        have hlength : [' '].length = 1 := rfl
        rw [hlength] at hword
        refine ⟨[], w :: ws, rfl, Nat.zero_le _, ?_, .inr ⟨w, ws, rfl, rfl⟩⟩
        intro v hv
        obtain rfl := Option.some.inj hv
        show room < 0 + 1 + w.length
        omega
    · rw [if_neg (show ¬ [' '].length ≤ room from hspace)]
      refine ⟨[], w :: ws, rfl, Nat.zero_le _, ?_, .inl rfl⟩
      intro v hv
      show room < 0 + 1 + v.length
      omega

/-- No chunk is cut that fits on a line. -/
theorem nextLine_of_fits {cs : List Chunk} (h : ∀ c ∈ cs, c.length ≤ width) :
    nextLine width cs = takeFitting width cs := by
  have hparts := takeFitting_append width cs
  unfold nextLine
  generalize takeFitting width cs = fitting at hparts ⊢
  obtain ⟨taken, left⟩ := fitting
  cases left with
  | nil => rfl
  | cons c rest =>
    have hc : c.length ≤ width := h c (hparts ▸ by simp)
    exact if_neg (Nat.not_lt.mpr hc)

theorem length_le_of_mem_spaced (hw : 0 < width) (hws : ∀ w ∈ ws, IsShortWord width w) :
    ∀ c ∈ spaced ws, c.length ≤ width := by
  intro c hc
  cases ws with
  | nil => cases hc
  | cons w ws =>
    rcases List.mem_cons.mp hc with rfl | hc
    · exact (hws c (List.mem_cons_self ..)).length_le
    · obtain ⟨v, hv, hmem⟩ := List.mem_flatMap.mp hc
      rcases List.mem_cons.mp hmem with rfl | hmem
      · exact hw
      · rw [List.mem_singleton.mp hmem]
        exact (hws v (List.mem_cons_of_mem _ hv)).length_le

theorem spaced_ne_nil (hws : ws ≠ []) : spaced ws ≠ [] := by
  obtain ⟨w, ws, rfl⟩ := List.exists_cons_of_ne_nil hws
  exact List.cons_ne_nil _ _

theorem dropTrailing_spaced (hws : ∀ w ∈ ws, IsShortWord width w) :
    dropTrailing (spaced ws) = spaced ws := by
  unfold dropTrailing
  rw [getLast?_spaced]
  split
  next w hlast => exact if_neg (hws w (List.mem_of_getLast? hlast)).not_blank
  next hnone =>
    rw [List.getLast?_eq_none_iff.mp hnone]
    rfl

theorem dropLeading_spaced (hws : ∀ w ∈ ws, IsShortWord width w) :
    dropLeading (spaced ws) = spaced ws := by
  cases ws with
  | nil => rfl
  | cons w ws => exact if_neg (hws w (List.mem_cons_self ..)).not_blank

theorem dropLeading_led (ws : List (List Char)) : dropLeading (led ws) = spaced ws := by
  cases ws with
  | nil => rfl
  | cons w ws => rfl

/-- A line takes one word at least and then as many as fit. What is left begins with the next
word once a space in front is dropped. -/
theorem nextLine_spaced (hw : 0 < width) (hne : ws ≠ [])
    (hws : ∀ w ∈ ws, IsShortWord width w) : ∃ taken rest, ws = taken ++ rest ∧ taken ≠ []
      ∧ (spread taken).length ≤ width
      ∧ (∀ w ∈ rest.head?, width < (spread taken).length + 1 + w.length)
      ∧ dropTrailing (nextLine width (spaced ws)).1 = spaced taken
      ∧ dropLeading (nextLine width (spaced ws)).2 = spaced rest := by
  rw [nextLine_of_fits (length_le_of_mem_spaced hw hws)]
  obtain ⟨w, ws, rfl⟩ := List.exists_cons_of_ne_nil hne
  have hfirst : w.length ≤ width := (hws w (List.mem_cons_self ..)).length_le
  obtain ⟨taken, rest, rfl, hneeded, hfull, hcut⟩ := takeFitting_led (width - w.length) ws
  have htaken : ∀ v ∈ w :: taken, IsShortWord width v :=
    fun v hv => hws v (List.mem_append_left rest hv)
  have hrest : ∀ v ∈ rest, IsShortWord width v :=
    fun v hv => hws v (List.mem_append_right (w :: taken) hv)
  have hlength : (spread (w :: taken)).length + 1 = needed (w :: taken) :=
    length_spread (List.cons_ne_nil _ _)
  rw [needed_cons] at hlength
  have hline : takeFitting width (spaced (w :: (taken ++ rest)))
      = (w :: (takeFitting (width - w.length) (led (taken ++ rest))).1,
        (takeFitting (width - w.length) (led (taken ++ rest))).2) := by
    rw [spaced, takeFitting, if_pos hfirst]
  refine ⟨w :: taken, rest, rfl, List.cons_ne_nil _ _, by omega, ?_, ?_⟩
  · intro v hv
    have hroom := hfull v hv
    omega
  · rw [hline]
    rcases hcut with hcut | ⟨v, vs, rfl, hcut⟩
    · rw [hcut]
      exact ⟨dropTrailing_spaced htaken, dropLeading_led rest⟩
    · rw [hcut]
      refine ⟨?_, dropLeading_spaced hrest⟩
      show dropTrailing ((w :: led taken) ++ [[' ']]) = _
      rw [dropTrailing_concat]
      rfl

/-! ## All lines -/

/-- What one line does and what it leaves to the next. -/
theorem fillFrom_step (hw : 0 < width) {started : Bool} {cs front : List Chunk}
    (hfront : (if started then dropLeading cs else cs) = front) (hne : front ≠ [])
    (hline : dropTrailing (nextLine width front).1 ≠ []) :
    fillFrom width hw started cs = (dropTrailing (nextLine width front).1).flatten
      :: fillFrom width hw true (nextLine width front).2 := by
  have hcs : cs ≠ [] := by
    rintro rfl
    apply hne
    rw [← hfront]
    cases started <;> rfl
  rw [fillFrom, dif_neg hcs]
  subst hfront
  dsimp only
  rw [dif_neg hne, if_neg hline]

theorem fillFrom_nil (hw : 0 < width) {started : Bool} {cs : List Chunk}
    (hfront : (if started then dropLeading cs else cs) = []) :
    fillFrom width hw started cs = [] := by
  rw [fillFrom]
  split
  next => rfl
  next => exact dif_pos hfront

/-- The chunks of words with single spaces between them are filled into a full layout of
these words. -/
theorem fillFrom_spaced (hw : 0 < width) (started : Bool) (cs : List Chunk)
    (hws : ∀ w ∈ ws, IsShortWord width w)
    (hfront : (if started then dropLeading cs else cs) = spaced ws) :
    ∃ layout : Layout, layout.IsFilling width ws
      ∧ fillFrom width hw started cs = layout.map spread := by
  induction hn : ws.length using Nat.strong_induction_on generalizing ws started cs with
  | _ n ih =>
    by_cases hne : ws = []
    · subst hne
      refine ⟨[], ⟨rfl, by simp, by simp, List.IsChain.nil⟩, ?_⟩
      exact fillFrom_nil hw hfront
    · obtain ⟨taken, rest, rfl, htaken, hlength, hfull, hline, hleft⟩ :=
        nextLine_spaced hw hne hws
      have hfewer : rest.length < n := by
        rw [← hn, List.length_append]
        exact Nat.lt_add_of_pos_left (List.length_pos_of_ne_nil htaken)
      obtain ⟨layout, hlayout, hlines⟩ := ih rest.length hfewer true
        (nextLine width (spaced (taken ++ rest))).2
        (fun v hv => hws v (List.mem_append_right taken hv)) hleft rfl
      refine ⟨taken :: layout, hlayout.cons htaken hlength hfull, ?_⟩
      have hsome : dropTrailing (nextLine width (spaced (taken ++ rest))).1 ≠ [] := by
        rw [hline]
        exact spaced_ne_nil htaken
      rw [fillFrom_step hw hfront (spaced_ne_nil hne) hsome, hline, flatten_spaced, hlines,
        List.map_cons]

/-! ## Texts of words -/

/-- What may stand between two words. -/
def separators : List (List Char) := [[' '], ['\n'], ['\r', '\n']]

/-- A text of these words, with one separator between any two neighbours. -/
inductive Spells : List (List Char) → List Char → Prop
  | last (w : List Char) : Spells [w] w
  | cons (w : List Char) {sep s : List Char} {ws : List (List Char)} (hsep : sep ∈ separators)
      (h : Spells ws s) : Spells (w :: ws) (w ++ sep ++ s)

theorem Spells.ne_nil (h : Spells ws s) : ws ≠ [] := by
  cases h <;> exact List.cons_ne_nil _ _

theorem joinLines_separator {sep : List Char} (hsep : sep ∈ separators) (s : List Char) :
    joinLines (sep ++ s) = ' ' :: joinLines s := by
  unfold separators at hsep
  simp only [List.mem_cons, List.not_mem_nil, or_false] at hsep
  rcases hsep with rfl | rfl | rfl
  · rw [List.singleton_append, joinLines]
    · rfl
    · intro t h _
      cases h
  · rw [List.singleton_append, joinLines]
    · rfl
    · intro t h _
      cases h
  · rw [List.cons_append, List.singleton_append, joinLines]

/-- Every separator becomes one space. -/
theorem Spells.joinLines_eq (h : Spells ws s) (hws : ∀ w ∈ ws, NoGap isGap w) :
    joinLines s = spread ws := by
  induction h with
  | last w =>
    have hjoined := joinLines_append (hws w (List.mem_cons_self ..)) []
    rw [List.append_nil] at hjoined
    rw [hjoined, spread_singleton]
    exact List.append_nil w
  | cons w hsep h ih =>
    rw [List.append_assoc, joinLines_append (hws w (List.mem_cons_self ..)),
      joinLines_separator hsep, ih fun v hv => hws v (List.mem_cons_of_mem _ hv),
      spread_cons h.ne_nil]

theorem expandTabs_of_not_mem (h : '\t' ∉ s) (column : Nat) : expandTabs column s = s := by
  induction s generalizing column with
  | nil => rfl
  | cons c s ih =>
    rw [List.mem_cons, not_or] at h
    rw [expandTabs, if_neg (Ne.symm h.1), ih h.2]

/-- Lines are filled with the words of such a text and single spaces between them. -/
theorem Spells.plain_eq (h : Spells ws s) (hws : ∀ w ∈ ws, NoGap isGap w) :
    plain s = spread ws := by
  have htab : '\t' ∉ spread ws := by
    intro hmem
    have hspace : '\t' = ' ' := eq_space_of_mem_spread hws hmem (by decide)
    revert hspace
    decide
  rw [plain, h.joinLines_eq hws, expandTabs_of_not_mem htab, plainGaps]
  refine (List.map_congr_left fun c hc => ?_).trans (List.map_id _)
  split
  next hgap => exact (eq_space_of_mem_spread hws hc hgap).symm
  next => rfl

/-! ## Comments of words -/

theorem wrapChars_of_spells (hw : 0 < width) (h : Spells ws s)
    (hws : ∀ w ∈ ws, IsShortWord width w) :
    ∃ layout : Layout, layout.IsFilling width ws ∧ wrapChars width hw s = layout.map spread := by
  have hplain := h.plain_eq fun w hw => (hws w hw).noGap
  obtain ⟨layout, hlayout, hlines⟩ := fillFrom_spaced hw false (spaced ws) hws rfl
  refine ⟨layout, hlayout, ?_⟩
  unfold wrapChars
  rw [fill_joinLines, hplain, chunks_spread hws, hlines]
  split
  next hnil =>
    have hwords := hlayout.flatten_eq
    rw [List.map_eq_nil_iff.mp hnil] at hwords
    exact absurd hwords.symm h.ne_nil
  next => rfl

/-- A comment of words that fit on lines, with one space or line break between any two of them,
is wrapped into lines of these words. With single spaces between them the lines are the words
with single spaces between them, no line has room for the word after it, and no other
division of the words into lines of this width has fewer. -/
theorem wrapComment_words {text : String} {width : Int} (hwidth : 1 ≤ width)
    (hws : ∀ w ∈ ws, IsShortWord width.toNat w) (htext : Spells ws text.toList) :
    ∃ lines, wrapComment? text width = .ok lines
      ∧ spread (lines.map String.toList) = spread ws
      ∧ (∃ layout : Layout, layout.IsFilling width.toNat ws
        ∧ lines.map String.toList = layout.map spread)
      ∧ ∀ other : Layout, other.flatten = ws
        → (∀ line ∈ other, (spread line).length ≤ width.toNat) → lines.length ≤ other.length := by
  have hw : 0 < width.toNat := by omega
  obtain ⟨layout, hlayout, hlines⟩ := wrapChars_of_spells hw htext hws
  have hchars : ((wrapChars width.toNat hw text.toList).map String.ofList).map String.toList
      = layout.map spread := by
    rw [hlines, List.map_map, List.map_map]
    exact List.map_congr_left fun line _ => String.toList_ofList
  refine ⟨_, dif_pos hw, ?_, ⟨layout, hlayout, hchars⟩, ?_⟩
  · rw [hchars, spread_map_spread hlayout.no_empty, hlayout.flatten_eq]
  · intro other hother hfits
    rw [List.length_map, hlines, List.length_map]
    refine Layout.length_le_of_full hlayout.no_empty hlayout.full hfits [] ?_
    rw [hother, hlayout.flatten_eq]
    rfl

/-- The words of a comment whose first line is full before the line break after it. -/
def petWords : List (List Char) :=
  ["pets".toList, "need".toList, "a".toList, "big".toList, "garden".toList]

theorem petWords_wrapComment :
    (1 : Int) ≤ 9 ∧ (∀ w ∈ petWords, IsShortWord 9 w)
      ∧ Spells petWords "pets need\r\na\nbig garden".toList
      ∧ (∃ lines, wrapComment? "pets need\r\na\nbig garden" 9 = .ok lines
        ∧ lines = ["pets need", "a big", "garden"]
        ∧ (∃ layout : Layout, layout.IsFilling 9 petWords
          ∧ lines.map String.toList = layout.map spread)
        ∧ ∀ other : Layout, other.flatten = petWords
          → (∀ line ∈ other, (spread line).length ≤ 9) → 3 ≤ other.length) := by
  have hws : ∀ w ∈ petWords, IsShortWord 9 w := by decide
  have htext : Spells petWords "pets need\r\na\nbig garden".toList :=
    .cons _ (show [' '] ∈ separators by decide)
      (.cons _ (show ['\r', '\n'] ∈ separators by decide)
        (.cons _ (show ['\n'] ∈ separators by decide)
          (.cons _ (show [' '] ∈ separators by decide) (.last _))))
  have hwrapped : wrapComment? "pets need\r\na\nbig garden" 9
      = .ok ["pets need", "a big", "garden"] := by decide +kernel
  have hwidth : (1 : Int) ≤ 9 := by decide
  obtain ⟨lines, hlines, -, hlayout, hfewest⟩ := wrapComment_words hwidth hws htext
  obtain rfl := Except.ok.inj (hlines.symm.trans hwrapped)
  exact ⟨hwidth, hws, htext, _, hlines, rfl, hlayout, hfewest⟩

end Ontogen.Text
