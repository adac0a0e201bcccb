import Ontogen.Proofs.Text.Cut
import Ontogen.Uri.Parts

/-!
# Parts of a URI that ends in a delimiter

A `#` or a `/` at the end of a text goes with what is behind the scheme (`cutScheme_concat`)
and ends the authority if nothing did before. So a text without `#` has the same authority
whether a `#` or a `/` comes after it, and its path has a slash more at the end or it has not:
the slash may be in the query, or be the second one of two that begin an authority.

Main result: `parts?_hash_slash`.
-/

namespace Ontogen.Uri

open Text (beforeFirst afterFirst cutFirst)

variable {s rest scheme : List Char} {e : Char}

/-! ## Cleaning and the scheme -/

theorem mem_of_mem_clean {c : Char} (h : c ∈ clean s) : c ∈ s :=
  (List.dropWhile_suffix _).subset (List.mem_filter.mp h).1

/-- Cleaning keeps a character at the end that is neither a control character nor a space. -/
theorem clean_concat (he : 0x20 < e.toNat) (s : List Char) :
    clean (s ++ [e]) = clean s ++ [e] := by
  have hstop : decide (e.toNat ≤ 0x20) = false := by simpa using he
  have hne : ∀ c : Char, c.toNat ≤ 0x20 → e ≠ c := by
    intro c hc heq
    rw [heq] at he
    omega
  have hkept : [e].filter (fun c => c != '\t' && c != '\r' && c != '\n') = [e] := by
    simp [hne '\t' (by decide), hne '\r' (by decide), hne '\n' (by decide)]
  unfold clean
  rw [Text.dropWhile_concat hstop, List.filter_append, hkept]

theorem mem_of_mem_cutScheme {c : Char} (h : c ∈ (cutScheme s).2) : c ∈ s := by
  by_cases hcolon : ':' ∈ s
  · obtain ⟨before, after, rfl, hbefore⟩ := List.eq_append_cons_of_mem hcolon
    rw [cutScheme, Text.cutFirst_append_cons hbefore] at h
    cases before with
    | nil => exact h
    | cons d ds =>
      dsimp only at h
      split at h
      next => exact List.mem_append_right _ (List.mem_cons_of_mem _ h)
      next => exact h
  · rwa [cutScheme, Text.cutFirst_of_not_mem hcolon] at h

/-- What comes after a text does not change its scheme unless it has a colon. -/
theorem cutScheme_concat (he : e ≠ ':') (s : List Char) :
    cutScheme (s ++ [e]) = ((cutScheme s).1, (cutScheme s).2 ++ [e]) := by
  unfold cutScheme
  by_cases hcolon : ':' ∈ s
  · obtain ⟨before, after, rfl, hbefore⟩ := List.eq_append_cons_of_mem hcolon
    rw [List.append_assoc, List.cons_append, Text.cutFirst_append_cons hbefore,
      Text.cutFirst_append_cons hbefore]
    cases before with
    | nil => rfl
    | cons c cs =>
      dsimp only
      split
      next => rfl
      next => simp
  · have hlonger : ':' ∉ s ++ [e] := by simp [hcolon, he.symm]
    rw [Text.cutFirst_of_not_mem hcolon, Text.cutFirst_of_not_mem hlonger]

/-! ## The parts behind the scheme -/

/-- The parts of a URI that has this scheme and this authority, and after them this text. -/
def partsOf (scheme authority rest : List Char) : Parts where
  scheme := scheme
  authority := authority
  path := beforeFirst '?' (beforeFirst '#' rest)
  query := afterFirst '?' (beforeFirst '#' rest)

/-- Two slashes begin an authority. -/
theorem parts?_of_slashes (h : cutScheme (clean s) = (scheme, '/' :: '/' :: rest)) :
    parts? s = if authorityOk (rest.takeWhile fun c => !endsAuthority c) then
      some (partsOf scheme (rest.takeWhile fun c => !endsAuthority c)
        (rest.dropWhile fun c => !endsAuthority c))
    else none := by
  unfold parts?
  rw [h]
  rfl

/-- Without them there is none, and nothing can be wrong with it. -/
theorem parts?_of_plain (h : cutScheme (clean s) = (scheme, rest))
    (hplain : ∀ t, rest ≠ '/' :: '/' :: t) : parts? s = some (partsOf scheme [] rest) := by
  have hnone : authorityOk [] = true := by decide
  unfold parts?
  rw [h]
  dsimp only
  split
  next t => exact absurd rfl (hplain t)
  next => rw [if_pos hnone, partsOf]

/-! ## A delimiter at the end -/

/-- Paths that differ at most in one slash at the end. -/
def SlashApart (p q : List Char) : Prop := p = q ∨ p ++ ['/'] = q ∨ p = q ++ ['/']

theorem slashApart_path (scheme authority : List Char) (hhash : '#' ∉ rest) :
    SlashApart (partsOf scheme authority (rest ++ ['#'])).path
      (partsOf scheme authority (rest ++ ['/'])).path := by
  have hslash : '#' ∉ rest ++ ['/'] := by simp [hhash]
  unfold partsOf
  dsimp only
  rw [Text.beforeFirst_append_cons hhash, Text.beforeFirst_of_not_mem hslash]
  by_cases hquery : '?' ∈ rest
  · obtain ⟨before, after, rfl, hbefore⟩ := List.eq_append_cons_of_mem hquery
    rw [List.append_assoc, List.cons_append, Text.beforeFirst_append_cons hbefore,
      Text.beforeFirst_append_cons hbefore]
    exact .inl rfl
  · have hnone : '?' ∉ rest ++ ['/'] := by simp [hquery]
    rw [Text.beforeFirst_of_not_mem hquery, Text.beforeFirst_of_not_mem hnone]
    exact .inr (.inl rfl)

/-- Nothing begins an authority with the end that did not before, but a second slash. -/
theorem plain_concat (hplain : ∀ t, rest ≠ '/' :: '/' :: t) (he : rest = ['/'] → e ≠ '/') :
    ∀ t, rest ++ [e] ≠ '/' :: '/' :: t := by
  intro t h
  match rest with
  | [] => cases h
  | [c] =>
    obtain ⟨rfl, hrest⟩ := List.cons.inj h
    exact he rfl (List.cons.inj hrest).1
  | c :: d :: rest =>
    obtain ⟨rfl, hrest⟩ := List.cons.inj h
    obtain ⟨rfl, -⟩ := List.cons.inj hrest
    exact hplain rest rfl

/-- With a `#` after it a text has the same authority as with a `/` after it, and the same path
apart from a slash at its end, or neither of the two has parts. -/
theorem parts?_hash_slash (hhash : '#' ∉ s) :
    (parts? (s ++ ['#']) = none ∧ parts? (s ++ ['/']) = none)
      ∨ ∃ p q, parts? (s ++ ['#']) = some p ∧ parts? (s ++ ['/']) = some q
        ∧ p.authority = q.authority ∧ SlashApart p.path q.path := by
  obtain ⟨scheme, rest, hcut⟩ : ∃ scheme rest, cutScheme (clean s) = (scheme, rest) :=
    ⟨_, _, rfl⟩
  have hcutHash : cutScheme (clean (s ++ ['#'])) = (scheme, rest ++ ['#']) := by
    rw [clean_concat (by decide), cutScheme_concat (by decide), hcut]
  have hcutSlash : cutScheme (clean (s ++ ['/'])) = (scheme, rest ++ ['/']) := by
    rw [clean_concat (by decide), cutScheme_concat (by decide), hcut]
  have hrest : '#' ∉ rest := by
    intro h
    refine hhash (mem_of_mem_clean (mem_of_mem_cutScheme (s := clean s) ?_))
    rwa [hcut]
  by_cases hauth : ∃ t, rest = '/' :: '/' :: t
  · obtain ⟨t, rfl⟩ := hauth
    -- Either delimiter ends the authority, if it has not ended before.
    have hstopHash : (!endsAuthority '#') = false := by decide
    have hstopSlash : (!endsAuthority '/') = false := by decide
    rw [List.cons_append, List.cons_append] at hcutHash hcutSlash
    rw [parts?_of_slashes hcutHash, parts?_of_slashes hcutSlash,
      Text.takeWhile_concat (p := fun c => !endsAuthority c) hstopHash,
      Text.takeWhile_concat (p := fun c => !endsAuthority c) hstopSlash,
      Text.dropWhile_concat (p := fun c => !endsAuthority c) hstopHash,
      Text.dropWhile_concat (p := fun c => !endsAuthority c) hstopSlash]
    split
    next =>
      have hafter : '#' ∉ t.dropWhile fun c => !endsAuthority c := by
        intro h
        have hmem : '#' ∈ t := (List.dropWhile_suffix _).subset h
        exact hrest (List.mem_cons_of_mem _ (List.mem_cons_of_mem _ hmem))
      exact .inr ⟨_, _, rfl, rfl, rfl, slashApart_path _ _ hafter⟩
    next => exact .inl ⟨rfl, rfl⟩
  · have hplain : ∀ t, rest ≠ '/' :: '/' :: t := fun t ht => hauth ⟨t, ht⟩
    have hplainHash := plain_concat (e := '#') hplain fun _ => by decide
    rw [parts?_of_plain hcutHash hplainHash]
    by_cases hone : rest = ['/']
    · -- The second slash begins an authority, which is empty, and leaves no path.
      rw [hone] at hcutSlash ⊢
      rw [parts?_of_slashes hcutSlash]
      exact .inr ⟨_, _, rfl, rfl, rfl, .inr (.inr rfl)⟩
    · have hplainSlash := plain_concat (e := '/') hplain fun h => absurd h hone
      rw [parts?_of_plain hcutSlash hplainSlash]
      exact .inr ⟨_, _, rfl, rfl, rfl, slashApart_path _ _ hrest⟩

end Ontogen.Uri
