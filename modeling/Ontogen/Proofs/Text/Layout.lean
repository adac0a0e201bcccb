import Mathlib.Data.List.Chain

/-!
# Layouts of words

A layout divides words into lines, which are read with single spaces between their words and
between them (`spread_map_spread`). A full layout has no line with room for the word after it.

Of all layouts such a one has the fewest lines (`Layout.length_le_of_full`): another layout
that has come no further ends its line no later, since the words up to the first of the next
line are too many for any line. The layout is compared with all that are further back, and
so the words that these still have in front are a parameter of the statement.
-/

namespace Ontogen.Text

/-- Words with single spaces between them. -/
def spread (ws : List (List Char)) : List Char := List.intercalate [' '] ws

/-- Lines, each of them some words. -/
abbrev Layout := List (List (List Char))

variable {width : Nat} {ws : List (List Char)}

/-! ## Spread words -/

theorem spread_singleton (w : List Char) : spread [w] = w := List.intercalate_singleton

theorem spread_cons (hws : ws ≠ []) (w : List Char) :
    spread (w :: ws) = w ++ ' ' :: spread ws := by
  unfold spread
  rw [List.intercalate_cons_of_ne_nil hws, List.append_assoc]
  rfl

theorem spread_append {vs : List (List Char)} (hvs : vs ≠ []) (hws : ws ≠ []) :
    spread (vs ++ ws) = spread vs ++ ' ' :: spread ws := by
  induction vs with
  | nil => exact absurd rfl hvs
  | cons v vs ih =>
    by_cases hnil : vs = []
    · rw [hnil, List.singleton_append, spread_cons hws, spread_singleton]
    · rw [List.cons_append, spread_cons (by simp [hnil]), ih hnil, spread_cons hnil,
        List.append_assoc, List.cons_append]

/-- Lines with single spaces between them are their words with single spaces between them. -/
theorem spread_map_spread {layout : Layout} (hne : [] ∉ layout) :
    spread (layout.map spread) = spread layout.flatten := by
  induction layout with
  | nil => rfl
  | cons line layout ih =>
    rw [List.mem_cons, not_or] at hne
    obtain ⟨hline, hrest⟩ := hne
    rw [List.map_cons, List.flatten_cons]
    by_cases hnil : layout = []
    · rw [hnil, List.flatten_nil, List.append_nil]
      exact spread_singleton _
    · have hflat : layout.flatten ≠ [] := by
        obtain ⟨next, layout, rfl⟩ := List.exists_cons_of_ne_nil hnil
        rw [List.mem_cons, not_or] at hrest
        rw [List.flatten_cons]
        exact List.append_ne_nil_of_left_ne_nil (Ne.symm hrest.1) _
      rw [spread_cons (by simp [hnil]), ih hrest, spread_append (Ne.symm hline) hflat]

/-- The room that words take with a space after each of them. -/
def needed : List (List Char) → Nat
  | [] => 0
  | w :: ws => w.length + 1 + needed ws

theorem needed_cons (w : List Char) (ws : List (List Char)) :
    needed (w :: ws) = w.length + 1 + needed ws := rfl

theorem needed_append (vs ws : List (List Char)) : needed (vs ++ ws) = needed vs + needed ws := by
  induction vs with
  | nil => exact (Nat.zero_add _).symm
  | cons v vs ih =>
    rw [List.cons_append, needed_cons, needed_cons, ih]
    omega

/-- No space comes after the last word. -/
theorem length_spread (hws : ws ≠ []) : (spread ws).length + 1 = needed ws := by
  induction ws with
  | nil => exact absurd rfl hws
  | cons w ws ih =>
    rw [needed_cons]
    by_cases hnil : ws = []
    · rw [hnil, spread_singleton]
      rfl
    · have hrest := ih hnil
      rw [spread_cons hnil, List.length_append, List.length_cons]
      omega

/-! ## The fewest lines -/

namespace Layout

/-- No line has room for a space and the first word of the next line. -/
def IsFull (width : Nat) (layout : Layout) : Prop :=
  layout.IsChain fun line next => ∀ w ∈ next.head?, width < (spread line).length + 1 + w.length

/-- A full layout has no more lines than any other layout of its words, or of these and some
words in front. -/
theorem length_le_of_full {layout other : Layout} (hne : [] ∉ layout)
    (hfull : IsFull width layout) (hother : ∀ line ∈ other, (spread line).length ≤ width)
    (before : List (List Char)) (hwords : other.flatten = before ++ layout.flatten) :
    layout.length ≤ other.length := by
  induction other generalizing layout before with
  | nil =>
    match layout with
    | [] => exact Nat.le_refl _
    | line :: layout =>
      have hnil := (List.append_eq_nil_iff.mp hwords.symm).2
      rw [List.flatten_cons, List.append_eq_nil_iff] at hnil
      rw [hnil.1] at hne
      exact absurd (List.mem_cons_self ..) hne
  | cons line' other ih =>
    match layout with
    | [] => exact Nat.zero_le _
    | [line] => exact Nat.succ_le_succ (Nat.zero_le _)
    | line :: [] :: layout => exact absurd (by simp) hne
    | line :: (w :: next) :: layout =>
      have hrest : [] ∉ (w :: next) :: layout := fun h => hne (List.mem_cons_of_mem _ h)
      have hline : line ≠ [] := fun h => hne (h ▸ List.mem_cons_self ..)
      obtain ⟨hroom, hchain⟩ := List.isChain_cons_cons.mp hfull
      have hcut : line' ++ other.flatten
          = (before ++ line) ++ ((w :: next) :: layout).flatten := by
        rw [List.append_assoc]
        exact hwords
      apply Nat.succ_le_succ
      rcases List.append_eq_append_iff.mp hcut with ⟨after, -, hflat⟩ | ⟨excess, hexcess, hflat⟩
      · exact ih hrest hchain (fun l hl => hother l (List.mem_cons_of_mem _ hl)) after hflat
      · cases excess with
        | nil =>
          exact ih hrest hchain (fun l hl => hother l (List.mem_cons_of_mem _ hl)) [] hflat.symm
        | cons v excess =>
          -- The line would hold all words of this one and the first of the next.
          obtain rfl : w = v := (List.cons.inj hflat).1
          have hfits := hother line' (List.mem_cons_self ..)
          have htoo := hroom w rfl
          have hlength : (spread line').length + 1 = needed line' :=
            length_spread (by simp [hexcess])
          have hlength' := length_spread hline
          have hneeded : needed line'
              = needed before + needed line + (w.length + 1 + needed excess) := by
            rw [hexcess, needed_append, needed_append, needed_cons]
          omega

/-- The lines that words are filled into: all words in order, some on each line and no more
than fit, and no line with room for the next word. -/
structure IsFilling (width : Nat) (ws : List (List Char)) (layout : Layout) : Prop where
  flatten_eq : layout.flatten = ws
  no_empty : [] ∉ layout
  length_le : ∀ line ∈ layout, (spread line).length ≤ width
  full : layout.IsFull width

/-- One line in front of those that the other words are filled into. -/
theorem IsFilling.cons {layout : Layout} {taken rest : List (List Char)}
    (h : layout.IsFilling width rest) (hne : taken ≠ [])
    (hlength : (spread taken).length ≤ width)
    (hfull : ∀ w ∈ rest.head?, width < (spread taken).length + 1 + w.length) :
    IsFilling width (taken ++ rest) (taken :: layout) where
  flatten_eq := by rw [List.flatten_cons, h.flatten_eq]
  no_empty := by
    rw [List.mem_cons, not_or]
    exact ⟨Ne.symm hne, h.no_empty⟩
  length_le := List.forall_mem_cons.mpr ⟨hlength, h.length_le⟩
  full := by
    refine List.isChain_cons.mpr ⟨?_, h.full⟩
    intro next hnext w hw
    apply hfull w
    -- The first word of the next line is the first of the other words.
    rw [← h.flatten_eq]
    match layout with
    | [] => cases hnext
    | (v :: line) :: layout =>
      obtain rfl := Option.some.inj hnext
      exact hw
    | [] :: layout => exact absurd (List.mem_cons_self ..) h.no_empty

end Layout

end Ontogen.Text
