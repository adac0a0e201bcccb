/-!
# Cutting a text at a character

The parts of a text before and after the first or the last place of a character.
-/

namespace Ontogen.Text

/-- The text before and after the first `c`. -/
def cutFirst (c : Char) (s : List Char) : Option (List Char × List Char) :=
  match s.dropWhile (· != c) with
  | [] => none
  | _ :: after => some (s.takeWhile (· != c), after)

/-- The text before the first `c`, all of it if there is none. -/
def beforeFirst (c : Char) (s : List Char) : List Char := s.takeWhile (· != c)

/-- The text after the first `c`, none of it if there is no `c`. -/
def afterFirst (c : Char) (s : List Char) : List Char := (s.dropWhile (· != c)).drop 1

/-- The text after the last `c`, all of it if there is none. -/
def afterLast (c : Char) (s : List Char) : List Char :=
  (s.reverse.takeWhile (· != c)).reverse

/-- The text before the last `c`, all of it if there is none. -/
def beforeLast (c : Char) (s : List Char) : List Char :=
  if c ∈ s then ((s.reverse.dropWhile (· != c)).drop 1).reverse else s

/-- The text without the copies of `c` that it ends in. -/
def dropEnd (c : Char) (s : List Char) : List Char := (s.reverse.dropWhile (· == c)).reverse

private theorem head_dropWhile_ne {c : Char} {s : List Char} (h : c ∈ s) :
    ∃ t, s.dropWhile (· != c) = c :: t := by
  induction s with
  | nil => simp at h
  | cons d s ih =>
    by_cases hd : d = c
    · exact ⟨s, by simp [hd]⟩
    · have hs : c ∈ s := by
        rcases List.mem_cons.mp h with h | h
        · exact absurd h.symm hd
        · exact h
      obtain ⟨t, ht⟩ := ih hs
      exact ⟨t, by simp [hd, ht]⟩

/-- A text is what is before the last `c`, that `c`, and what is after it. -/
theorem beforeLast_append_afterLast {c : Char} {s : List Char} (h : c ∈ s) :
    beforeLast c s ++ c :: afterLast c s = s := by
  obtain ⟨t, ht⟩ := head_dropWhile_ne (c := c) (s := s.reverse) (by simpa using h)
  have hsplit := List.takeWhile_append_dropWhile (p := (· != c)) (l := s.reverse)
  rw [ht] at hsplit
  rw [beforeLast, if_pos h, ht, afterLast, List.drop_one, List.tail_cons]
  have := congrArg List.reverse hsplit
  simpa using this

/-- The part after the last `c` holds no `c`. -/
theorem not_mem_afterLast (c : Char) (s : List Char) : c ∉ afterLast c s := by
  intro h
  rw [afterLast, List.mem_reverse] at h
  have hall := List.all_eq_true.mp (List.all_takeWhile (p := (· != c)) (l := s.reverse)) c h
  simp at hall

end Ontogen.Text
