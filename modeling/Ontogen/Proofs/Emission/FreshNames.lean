import Ontogen.Emission.Layout
import Mathlib.Data.List.Nodup
import Mathlib.Data.List.Perm.Subperm

/-!
# Names that are not taken

A field that holds an instance gets a name that no own property and no earlier
instance has. The search for it tries at most one number for each name that is
taken, which is enough: the numbered names are all different (`numbered_inj`), so
the taken names cannot hold all of them (`exists_numbered_not_mem`).

Main results: `freshName_not_mem`, the name is not taken; `freshName_least`, it
has the least number with which it is not; and, for names given one after the
other, `freshNames_nodup` and `not_mem_freshNames`.
-/

namespace Ontogen.Emission

/-! ## Numbered names -/

theorem numbered_inj {base : String} {m n : Nat} (h : numbered base m = numbered base n) :
    m = n := by
  have hrepr : m.repr = n.repr := (String.append_right_inj base).mp h
  rw [Nat.repr_eq_ofList_toDigits, Nat.repr_eq_ofList_toDigits] at hrepr
  -- The number is read back from its digits.
  have hdigits : Nat.toDigits 10 m = Nat.toDigits 10 n := by
    have h := congrArg String.toList hrepr
    rwa [String.toList_ofList, String.toList_ofList] at h
  have hvalue := congrArg (fun ds => Nat.ofDigitChars 10 ds 0) hdigits
  simpa only [Nat.ofDigitChars_ten_toDigits] using hvalue

/-- Some name out of more numbered ones than there are taken names is not taken. -/
theorem exists_numbered_not_mem (taken : List String) (base : String) :
    ∃ k, k ≤ taken.length ∧ numbered base (k + 2) ∉ taken := by
  by_contra hnone
  have hall : ∀ k, k ≤ taken.length → numbered base (k + 2) ∈ taken := by
    intro k hk
    by_contra hmem
    exact hnone ⟨k, hk, hmem⟩
  have hnodup : ((List.range (taken.length + 1)).map fun k => numbered base (k + 2)).Nodup := by
    refine List.Nodup.map ?_ List.nodup_range
    intro i j hij
    have := numbered_inj hij
    omega
  have hsub : ((List.range (taken.length + 1)).map fun k => numbered base (k + 2)) ⊆ taken := by
    intro name hname
    obtain ⟨k, hk, rfl⟩ := List.mem_map.mp hname
    rw [List.mem_range] at hk
    exact hall k (by omega)
  have hlen := (hnodup.subperm hsub).length_le
  rw [List.length_map, List.length_range] at hlen
  omega

/-! ## The search -/

theorem le_freshNumber (taken : List String) (base : String) :
    ∀ fuel n, n ≤ freshNumber taken base fuel n := by
  intro fuel
  induction fuel with
  | zero => intro n; exact Nat.le_refl n
  | succ fuel ih =>
    intro n
    rw [freshNumber]
    split
    · exact Nat.le_trans (Nat.le_succ n) (ih (n + 1))
    · exact Nat.le_refl n

/-- Every number that the search has passed is one of a taken name. -/
theorem mem_of_lt_freshNumber {taken : List String} {base : String} :
    ∀ fuel n k, n ≤ k → k < freshNumber taken base fuel n → numbered base k ∈ taken := by
  intro fuel
  induction fuel with
  | zero =>
    intro n k hnk hk
    rw [freshNumber] at hk
    omega
  | succ fuel ih =>
    intro n k hnk hk
    rw [freshNumber] at hk
    by_cases hn : numbered base n ∈ taken
    · rw [if_pos hn] at hk
      rcases Nat.lt_or_ge n k with hlt | hge
      · exact ih (n + 1) k hlt hk
      · obtain rfl : k = n := by omega
        exact hn
    · rw [if_neg hn] at hk
      omega

/-- A search that ends at a taken name has used up all its fuel. -/
theorem freshNumber_of_mem {taken : List String} {base : String} :
    ∀ fuel n, numbered base (freshNumber taken base fuel n) ∈ taken →
      freshNumber taken base fuel n = n + fuel := by
  intro fuel
  induction fuel with
  | zero => intro n _; rfl
  | succ fuel ih =>
    intro n hmem
    rw [freshNumber] at hmem ⊢
    by_cases hn : numbered base n ∈ taken
    · rw [if_pos hn] at hmem ⊢
      rw [ih (n + 1) hmem]
      omega
    · rw [if_neg hn] at hmem
      exact absurd hmem hn

/-- With one step for every taken name the search finds one that is not taken. -/
theorem numbered_freshNumber_not_mem (taken : List String) (base : String) :
    numbered base (freshNumber taken base taken.length 2) ∉ taken := by
  intro hmem
  have hend := freshNumber_of_mem _ _ hmem
  obtain ⟨k, hk, hfree⟩ := exists_numbered_not_mem taken base
  rcases Nat.lt_or_ge k taken.length with hlt | hge
  · exact hfree (mem_of_lt_freshNumber taken.length 2 (k + 2) (by omega) (by omega))
  · obtain rfl : k = taken.length := by omega
    rw [hend, Nat.add_comm] at hmem
    exact hfree hmem

/-! ## One name -/

theorem freshName_of_not_mem {taken : List String} {base : String} (h : base ∉ taken) :
    freshName taken base = base := if_neg h

/-- The name that is given is not taken. -/
theorem freshName_not_mem (taken : List String) (base : String) :
    freshName taken base ∉ taken := by
  by_cases hbase : base ∈ taken
  · rw [freshName, if_pos hbase]
    exact numbered_freshNumber_not_mem taken base
  · rw [freshName_of_not_mem hbase]
    exact hbase

/-- A name that is taken gets the least number from 2 on that makes it a name
which is not. -/
theorem freshName_least {taken : List String} {base : String} (h : base ∈ taken) :
    ∃ n, 2 ≤ n ∧ freshName taken base = numbered base n ∧ numbered base n ∉ taken
      ∧ ∀ k, 2 ≤ k → k < n → numbered base k ∈ taken := by
  refine ⟨freshNumber taken base taken.length 2, le_freshNumber taken base _ 2, ?_,
    numbered_freshNumber_not_mem taken base, ?_⟩
  · rw [freshName, if_pos h]
  · intro k hk hlt
    exact mem_of_lt_freshNumber taken.length 2 k hk hlt

/-- A name is given as it is or with a number. -/
theorem freshName_cases (taken : List String) (base : String) :
    freshName taken base = base ∨ ∃ n, freshName taken base = numbered base n := by
  unfold freshName
  split
  next => exact Or.inr ⟨_, rfl⟩
  next => exact Or.inl rfl

/-! ## Names given one after the other -/

/-- Gives each name in turn, and takes it. -/
def freshNames : List String → List String → List String
  | _, [] => []
  | taken, base :: bases =>
    freshName taken base :: freshNames (freshName taken base :: taken) bases

/-- No name that was taken before is given. -/
theorem not_mem_freshNames {bases : List String} :
    ∀ {taken : List String} {name : String}, name ∈ freshNames taken bases → name ∉ taken := by
  induction bases with
  | nil => intro taken name h; cases h
  | cons base bases ih =>
    intro taken name h
    rw [freshNames, List.mem_cons] at h
    rcases h with rfl | h
    · exact freshName_not_mem taken base
    · intro hmem
      exact ih h (List.mem_cons_of_mem _ hmem)

/-- Every name that is given is one of those asked for, as it is or with a number. -/
theorem mem_freshNames {bases : List String} :
    ∀ {taken : List String} {name : String}, name ∈ freshNames taken bases →
      ∃ base ∈ bases, name = base ∨ ∃ n, name = numbered base n := by
  induction bases with
  | nil => intro taken name h; cases h
  | cons base bases ih =>
    intro taken name h
    rw [freshNames, List.mem_cons] at h
    rcases h with rfl | h
    · exact ⟨base, List.mem_cons_self .., freshName_cases taken base⟩
    · obtain ⟨base', hbase, hname⟩ := ih h
      exact ⟨base', List.mem_cons_of_mem _ hbase, hname⟩

/-- No name is given twice. -/
theorem freshNames_nodup (taken bases : List String) : (freshNames taken bases).Nodup := by
  induction bases generalizing taken with
  | nil => exact List.nodup_nil
  | cons base bases ih =>
    rw [freshNames, List.nodup_cons]
    refine ⟨?_, ih _⟩
    intro h
    exact not_mem_freshNames h (List.mem_cons_self ..)

end Ontogen.Emission
