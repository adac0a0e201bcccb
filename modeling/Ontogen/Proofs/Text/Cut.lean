import Mathlib.Data.List.DropRight
import Mathlib.Data.List.TakeWhile
import Ontogen.Text.Cut

/-!
# Texts cut at a character

A text with a character in it has only one cut at which that character is the last of its kind
(`eq_of_append_cons_eq`), so wherever a text is seen to be put together in this way its two parts
are known (`beforeLast_append_cons`, `afterLast_append_cons`). A text without the character
is not cut at all.

Dropping the copies of a character at the end takes away copies of it alone and leaves none
there (`exists_eq_dropEnd_append`, `getLast?_dropEnd`).
-/

namespace Ontogen.Text

variable {c : Char} {s t : List Char}

/-- The characters of two texts with a mark of one character between them. -/
theorem toList_between {mark : String} (h : mark.toList = [c]) (s t : String) :
    (s ++ mark ++ t).toList = s.toList ++ c :: t.toList := by
  rw [String.toList_append, String.toList_append, h, List.append_assoc, List.singleton_append]

/-! ## The last place of a character -/

/-- What stands after the last separator tells the two parts. -/
theorem eq_of_append_cons_eq {point : Char} {p q m n : List Char} (hm : point ∉ m)
    (hn : point ∉ n) (h : p ++ point :: m = q ++ point :: n) : p = q ∧ m = n := by
  rcases List.append_eq_append_iff.mp h with ⟨rest, hq, hrest⟩ | ⟨rest, hp, hrest⟩
  · cases rest with
    | nil =>
      rw [List.append_nil] at hq
      exact ⟨hq.symm, (List.cons.inj hrest).2⟩
    | cons c rest =>
      refine absurd ?_ hm
      rw [(List.cons.inj hrest).2]
      simp
  · cases rest with
    | nil =>
      rw [List.append_nil] at hp
      exact ⟨hp, (List.cons.inj hrest).2.symm⟩
    | cons c rest =>
      refine absurd ?_ hn
      rw [(List.cons.inj hrest).2]
      simp

theorem mem_append_cons (c : Char) (s t : List Char) : c ∈ s ++ c :: t :=
  List.mem_append_right s (List.mem_cons_self ..)

theorem cut_append_cons (h : c ∉ t) (s : List Char) :
    beforeLast c (s ++ c :: t) = s ∧ afterLast c (s ++ c :: t) = t :=
  eq_of_append_cons_eq (not_mem_afterLast c _) h
    (beforeLast_append_afterLast (mem_append_cons c s t))

theorem beforeLast_append_cons (h : c ∉ t) (s : List Char) :
    beforeLast c (s ++ c :: t) = s := (cut_append_cons h s).1

theorem afterLast_append_cons (h : c ∉ t) (s : List Char) :
    afterLast c (s ++ c :: t) = t := (cut_append_cons h s).2

theorem beforeLast_of_not_mem (h : c ∉ s) : beforeLast c s = s := if_neg h

theorem afterLast_of_not_mem (h : c ∉ s) : afterLast c s = s := by
  refine List.rtakeWhile_eq_self_iff.mpr ?_
  intro d hd
  exact bne_iff_ne.mpr fun heq => h (heq ▸ hd)

/-! ## The first place of a character -/

theorem cut_at_first (h : c ∉ s) (t : List Char) :
    (s ++ c :: t).takeWhile (· != c) = s ∧ (s ++ c :: t).dropWhile (· != c) = c :: t := by
  have hfront : ∀ d ∈ s, (d != c) = true := by
    intro d hd
    exact bne_iff_ne.mpr fun heq => h (heq ▸ hd)
  rw [List.takeWhile_append_of_pos hfront, List.dropWhile_append_of_pos hfront]
  simp

theorem beforeFirst_append_cons (h : c ∉ s) (t : List Char) :
    beforeFirst c (s ++ c :: t) = s := (cut_at_first h t).1

theorem cutFirst_append_cons (h : c ∉ s) (t : List Char) :
    cutFirst c (s ++ c :: t) = some (s, t) := by
  obtain ⟨hbefore, hafter⟩ := cut_at_first h t
  rw [cutFirst, hafter, hbefore]

theorem beforeFirst_of_not_mem (h : c ∉ s) : beforeFirst c s = s := by
  refine List.takeWhile_eq_self_iff.mpr ?_
  intro d hd
  exact bne_iff_ne.mpr fun heq => h (heq ▸ hd)

theorem cutFirst_of_not_mem (h : c ∉ s) : cutFirst c s = none := by
  have hnone : s.dropWhile (· != c) = [] := by
    refine List.dropWhile_eq_nil_iff.mpr ?_
    intro d hd
    exact bne_iff_ne.mpr fun heq => h (heq ▸ hd)
  rw [cutFirst, hnone]

/-! ## A character at the end that stops a search -/

theorem takeWhile_concat {p : Char → Bool} (hstop : p c = false) (s : List Char) :
    (s ++ [c]).takeWhile p = s.takeWhile p := by
  rw [List.takeWhile_append]
  split
  next hall =>
    rw [List.takeWhile_cons_of_neg (by simp [hstop]), List.append_nil]
    exact (List.IsPrefix.eq_of_length (List.takeWhile_prefix p) hall).symm
  next => rfl

theorem dropWhile_concat {p : Char → Bool} (hstop : p c = false) (s : List Char) :
    (s ++ [c]).dropWhile p = s.dropWhile p ++ [c] := by
  rw [List.dropWhile_append]
  split
  next hnil =>
    rw [List.isEmpty_iff.mp hnil, List.dropWhile_cons_of_neg (by simp [hstop])]
    rfl
  next => rfl

/-! ## Copies at the end -/

theorem getLast?_dropEnd (c : Char) (s : List Char) : (dropEnd c s).getLast? ≠ some c := by
  intro h
  have hne : dropEnd c s ≠ [] := by
    intro hnil
    rw [hnil] at h
    cases h
  rw [List.getLast?_eq_getLast_of_ne_nil hne] at h
  exact List.rdropWhile_last_not (· == c) s hne (beq_iff_eq.mpr (Option.some.inj h))

/-- Only copies of the character are dropped. -/
theorem exists_eq_dropEnd_append (c : Char) (s : List Char) :
    ∃ n, s = dropEnd c s ++ List.replicate n c := by
  have hcopies : ∀ d ∈ s.rtakeWhile (· == c), d = c := by
    intro d hd
    have hp : (d == c) = true := List.mem_rtakeWhile_imp (p := (· == c)) hd
    exact beq_iff_eq.mp hp
  have hparts : dropEnd c s ++ s.rtakeWhile (· == c) = s := List.rdropWhile_append_rtakeWhile
  refine ⟨(s.rtakeWhile (· == c)).length, ?_⟩
  rw [← List.eq_replicate_of_mem hcopies, hparts]

/-- A text that does not end in the character loses nothing. -/
theorem dropEnd_of_getLast? (h : s.getLast? ≠ some c) : dropEnd c s = s := by
  refine List.rdropWhile_eq_self_iff.mpr ?_
  intro hne heq
  apply h
  rw [List.getLast?_eq_getLast_of_ne_nil hne, beq_iff_eq.mp heq]

end Ontogen.Text
