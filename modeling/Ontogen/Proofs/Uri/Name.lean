import Ontogen.Proofs.Text.Cut
import Ontogen.Uri.Name

/-!
# Where a URI is cut

The namespace and the name of a URI are found apart from one another, and they fit together
when both are told by one place: the last `#`, or without a `#` the last `/` once the slashes
at the end are gone. Then the namespace ends at that place and the name begins after it
(`namespaceChars_append_localChars_of_hash`, `namespaceChars_append_localChars_of_slash`).

A URI without such a place is not cut. All of it is the name, and all of it is the namespace
too, with a `/` after it that the URI does not have (`urn_cut_twice`).

Main result: `namespaceOf_append_localName_iff`.
-/

namespace Ontogen.Uri

open Text (dropEnd)

variable {s : List Char}

/-! ## Characters -/

theorem hash_not_mem_localChars (s : List Char) : '#' ∉ localChars s := by
  unfold localChars
  split
  next => exact Text.not_mem_afterLast '#' s
  next hhash =>
    intro h
    -- What is left of the text at each step is a part of it.
    have hbare : '#' ∈ dropEnd '/' s :=
      (List.rtakeWhile_suffix (· != '/') (dropEnd '/' s)).subset h
    exact hhash ((List.rdropWhile_prefix (· == '/') s).subset hbare)

theorem slash_not_mem_localChars (hhash : '#' ∉ s) : '/' ∉ localChars s := by
  rw [localChars, if_neg hhash]
  exact Text.not_mem_afterLast '/' _

theorem namespaceChars_append_localChars_of_hash (hhash : '#' ∈ s) :
    namespaceChars s ++ localChars s = s := by
  rw [namespaceChars, localChars, if_pos hhash, if_pos hhash, List.append_assoc]
  exact Text.beforeLast_append_afterLast hhash

theorem namespaceChars_append_localChars_of_slash (hhash : '#' ∉ s)
    (hslash : '/' ∈ dropEnd '/' s) : namespaceChars s ++ localChars s = dropEnd '/' s := by
  rw [namespaceChars, localChars, if_neg hhash, if_neg hhash, List.append_assoc]
  exact Text.beforeLast_append_afterLast hslash

/-- Without a place to cut at, the text is both. -/
theorem cut_of_not_mem (hhash : '#' ∉ s) (hslash : '/' ∉ dropEnd '/' s) :
    namespaceChars s = dropEnd '/' s ++ ['/'] ∧ localChars s = dropEnd '/' s := by
  rw [namespaceChars, localChars, if_neg hhash, if_neg hhash,
    Text.beforeLast_of_not_mem hslash, Text.afterLast_of_not_mem hslash]
  exact ⟨rfl, rfl⟩

/-! ## URIs -/

theorem toList_localName (u : Uri) : (localName u).toList = localChars u.toList :=
  String.toList_ofList

theorem toList_namespaceOf (u : Uri) : (namespaceOf u).toList = namespaceChars u.toList :=
  String.toList_ofList

/-- A URI without the slashes that it ends in. -/
def bare (u : Uri) : Uri := String.ofList (dropEnd '/' u.toList)

theorem toList_bare (u : Uri) : (bare u).toList = dropEnd '/' u.toList := String.toList_ofList

/-- `v` is `u` without the slashes that `u` ends in. -/
structure IsBare (u v : Uri) : Prop where
  exists_slashes : ∃ n, u.toList = v.toList ++ List.replicate n '/'
  getLast?_ne : v.toList.getLast? ≠ some '/'

theorem isBare_bare (u : Uri) : IsBare u (bare u) where
  exists_slashes := by
    rw [toList_bare]
    exact Text.exists_eq_dropEnd_append '/' u.toList
  getLast?_ne := by
    rw [toList_bare]
    exact Text.getLast?_dropEnd '/' u.toList

/-- A URI with a `#` is its namespace and its name. One without is so, apart from the slashes
at its end, exactly when it has another slash; if it has none, both are all of it. No name has
a `#`, and none has a `/` when the URI has no `#`. -/
theorem namespaceOf_append_localName_iff (u : Uri) :
    '#' ∉ (localName u).toList
      ∧ ('#' ∈ u.toList → namespaceOf u ++ localName u = u)
      ∧ ('#' ∉ u.toList → '/' ∉ (localName u).toList ∧ IsBare u (bare u)
        ∧ (namespaceOf u ++ localName u = bare u ↔ '/' ∈ (bare u).toList)
        ∧ ('/' ∉ (bare u).toList → namespaceOf u = bare u ++ "/" ∧ localName u = bare u)) := by
  have hjoined : (namespaceOf u ++ localName u).toList
      = namespaceChars u.toList ++ localChars u.toList := by
    rw [String.toList_append, toList_namespaceOf, toList_localName]
  rw [toList_localName, toList_bare]
  refine ⟨hash_not_mem_localChars _, ?_, ?_⟩
  · intro hhash
    rw [← String.toList_inj, hjoined]
    exact namespaceChars_append_localChars_of_hash hhash
  · intro hhash
    refine ⟨slash_not_mem_localChars hhash, isBare_bare u, ?_, ?_⟩
    · rw [← String.toList_inj, hjoined, toList_bare]
      by_cases hslash : '/' ∈ dropEnd '/' u.toList
      · exact iff_of_true (namespaceChars_append_localChars_of_slash hhash hslash) hslash
      · -- The slash that is added makes the difference.
        refine iff_of_false ?_ hslash
        intro heq
        obtain ⟨hns, hname⟩ := cut_of_not_mem hhash hslash
        rw [hns, hname] at heq
        exact hslash (heq ▸ by simp)
    · intro hslash
      obtain ⟨hns, hname⟩ := cut_of_not_mem hhash hslash
      constructor
      · rw [← String.toList_inj, toList_namespaceOf, hns, String.toList_append, toList_bare]
        rfl
      · rw [← String.toList_inj, toList_localName, hname, toList_bare]

/-- A URI with two `#` and one with slashes at its end are cut at one place. -/
theorem cubs_namespaceOf_append_localName :
    ('#' ∈ "http://zoo#wild/Dog#Cub".toList
        ∧ namespaceOf "http://zoo#wild/Dog#Cub" ++ localName "http://zoo#wild/Dog#Cub"
          = "http://zoo#wild/Dog#Cub")
      ∧ '#' ∉ "http://zoo/Cub//".toList ∧ '/' ∈ "http://zoo/Cub".toList
        ∧ namespaceOf "http://zoo/Cub//" ++ localName "http://zoo/Cub//" = "http://zoo/Cub"
      ∧ '#' ∉ "urn:example:Dog".toList ∧ '/' ∉ "urn:example:Dog".toList
        ∧ namespaceOf "urn:example:Dog" = "urn:example:Dog/"
        ∧ localName "urn:example:Dog" = "urn:example:Dog" := by
  have hcub : bare "http://zoo/Cub//" = "http://zoo/Cub" := by decide +kernel
  have hdog : bare "urn:example:Dog" = "urn:example:Dog" := by decide +kernel
  obtain ⟨-, hhash, -⟩ := namespaceOf_append_localName_iff "http://zoo#wild/Dog#Cub"
  obtain ⟨-, -, hslash⟩ := namespaceOf_append_localName_iff "http://zoo/Cub//"
  obtain ⟨-, -, hwhole⟩ := namespaceOf_append_localName_iff "urn:example:Dog"
  rw [hcub] at hslash
  rw [hdog] at hwhole
  refine ⟨⟨by decide, hhash (by decide)⟩, by decide, by decide, ?_, by decide, by decide, ?_⟩
  · exact (hslash (by decide)).2.2.1.mpr (by decide)
  · exact (hwhole (by decide)).2.2.2 (by decide)

/-- A URI with neither `#` nor `/` comes out twice, with a slash between. -/
theorem urn_cut_twice :
    '#' ∉ "urn:example:Dog".toList ∧ bare "urn:example:Dog" = "urn:example:Dog"
      ∧ namespaceOf "urn:example:Dog" ++ localName "urn:example:Dog"
        = "urn:example:Dog/urn:example:Dog"
      ∧ namespaceOf "urn:example:Dog" ++ localName "urn:example:Dog" ≠ bare "urn:example:Dog" := by
  decide +kernel

end Ontogen.Uri
