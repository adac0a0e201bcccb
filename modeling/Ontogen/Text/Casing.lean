import Ontogen.Text.CaseTable

/-!
# Letter case

Lower and upper case of a character, which may take several characters, and
texts whose first character alone changes case. ASCII letters shift within
ASCII; all others are looked up in the tables.
-/

namespace Ontogen.Text

private def mapCase (expansions : List (Nat × List Nat)) (runs : List CaseRun) (c : Char) :
    List Char :=
  match expansions.lookup c.toNat with
  | some image => image.map Char.ofNat
  | none =>
    match runs.find? (·.holds c.toNat) with
    | some run => [Char.ofNat (run.map c.toNat)]
    | none => [c]

/-- The lower case of a character. -/
def lower (c : Char) : List Char :=
  if c.toNat < 0x80 then [c.toLower] else mapCase lowerExpansions lowerRuns c

/-- The upper case of a character. -/
def upper (c : Char) : List Char :=
  if c.toNat < 0x80 then [c.toUpper] else mapCase upperExpansions upperRuns c

theorem lower_of_ascii {c : Char} (h : c.toNat < 0x80) : lower c = [c.toLower] := by
  simp [lower, h]

theorem upper_of_ascii {c : Char} (h : c.toNat < 0x80) : upper c = [c.toUpper] := by
  simp [upper, h]

private theorem mem_mapCase {expansions : List (Nat × List Nat)} {runs : List CaseRun}
    {c d : Char} (h : d ∈ mapCase expansions runs c) :
    d = c ∨ (∃ e ∈ expansions, ∃ n ∈ e.2, d = Char.ofNat n)
      ∨ ∃ run ∈ runs, d = Char.ofNat (run.map c.toNat) := by
  rw [mapCase] at h
  split at h
  next image hlookup =>
    obtain ⟨front, back, rfl, -⟩ := List.lookup_eq_some_iff.mp hlookup
    obtain ⟨n, hn, rfl⟩ := List.mem_map.mp h
    exact Or.inr (Or.inl
      ⟨(c.toNat, image), List.mem_append_right _ (List.mem_cons_self ..), n, hn, rfl⟩)
  next =>
    split at h
    next run hrun =>
      exact Or.inr (Or.inr ⟨run, List.mem_of_find?_eq_some hrun, List.mem_singleton.mp h⟩)
    next => exact Or.inl (List.mem_singleton.mp h)

/-- Where the characters of a lower case come from: a shift within ASCII, the character
itself, or a table. -/
theorem mem_lower {c d : Char} (h : d ∈ lower c) :
    c.toNat < 0x80 ∧ d = c.toLower ∨ 0x80 ≤ c.toNat ∧ d = c
      ∨ (∃ e ∈ lowerExpansions, ∃ n ∈ e.2, d = Char.ofNat n)
      ∨ ∃ run ∈ lowerRuns, d = Char.ofNat (run.map c.toNat) := by
  rw [lower] at h
  split at h
  next hc => exact Or.inl ⟨hc, List.mem_singleton.mp h⟩
  next hc =>
    rcases mem_mapCase h with hd | htable
    · exact Or.inr (Or.inl ⟨Nat.le_of_not_lt hc, hd⟩)
    · exact Or.inr (Or.inr htable)

/-- Every character in lower case. -/
def lowerAll (s : List Char) : List Char := s.flatMap lower

/-- The first character in lower case and the others as they are. -/
def lowerFirst : List Char → List Char
  | [] => []
  | c :: s => lower c ++ s

/-- The first character in upper case and the others as they are. -/
def upperFirst : List Char → List Char
  | [] => []
  | c :: s => upper c ++ s

end Ontogen.Text
