import Ontogen.Emission.TypeSource
import Ontogen.Package
import Ontogen.Proofs.Files.Path

/-!
# The names that packages and types have

Whatever a URI looks like, its parts come into a package as words of small ASCII letters,
digits, `_` and `$` (`isWord_packagePart`): a lower case has no capital left
(`Text.isUpper_of_mem_lower`), other characters become underscores, and no identifier is
empty. Words with points between them are taken apart at the points into just these words
(`pointParts_intercalate`). The name of a type is a word of ASCII letters, digits, `_` and `$`.
-/

namespace Ontogen

open Files (IsPlain pointParts pointParts_append)

/-! ## Lower case -/

namespace Text

theorem isUpper_iff {c : Char} : c.isUpper = true ↔ 65 ≤ c.toNat ∧ c.toNat ≤ 90 :=
  decide_eq_true_iff

theorem toNat_ofNat (n : Nat) : (Char.ofNat n).toNat = n ∨ (Char.ofNat n).toNat = 0 := by
  by_cases hvalid : n.isValidChar
  · have hchar : Char.ofNat n = Char.ofNatAux n hvalid := dif_pos hvalid
    rw [hchar]
    exact Or.inl rfl
  · have hchar : Char.ofNat n = Char.ofNat 0 := dif_neg hvalid
    rw [hchar]
    exact Or.inr rfl

/-- No character of a lower case is an ASCII capital. -/
theorem isUpper_of_mem_lower {c d : Char} (h : d ∈ lower c) : d.isUpper = false := by
  rcases mem_lower h with ⟨hc, rfl⟩ | ⟨hc, rfl⟩ | ⟨e, he, n, hn, rfl⟩ | ⟨run, hrun, rfl⟩
  · -- ASCII characters go to small ones, and those of the tables to none that is a capital.
    have hascii : ∀ n, n < 0x80 → (Char.ofNat n).toLower.isUpper = false := by decide +kernel
    have hlower := hascii c.toNat hc
    rwa [Char.ofNat_toNat] at hlower
  · rw [Bool.eq_false_iff]
    intro hupper
    have hrange := isUpper_iff.mp hupper
    omega
  · have htable : ∀ e ∈ lowerExpansions, ∀ n ∈ e.2, (Char.ofNat n).isUpper = false := by decide
    exact htable e he n hn
  · have htable : ∀ run ∈ lowerRuns, 90 < run.image := by decide +kernel
    have himage := htable run hrun
    rw [Bool.eq_false_iff]
    intro hupper
    have hrange := isUpper_iff.mp hupper
    have hvalue := toNat_ofNat (run.map c.toNat)
    rw [CaseRun.map] at hrange hvalue
    omega

end Text

/-! ## Words -/

/-- A text that is not empty, of characters of one kind. -/
structure IsWord (kind : Char → Bool) (s : String) : Prop where
  ne_empty : s ≠ ""
  chars : ∀ c ∈ s.toList, kind c = true

instance (kind : Char → Bool) (s : String) : Decidable (IsWord kind s) :=
  decidable_of_iff (s ≠ "" ∧ s.toList.all kind = true)
    ⟨fun h => ⟨h.1, List.all_eq_true.mp h.2⟩,
      fun h => ⟨h.ne_empty, List.all_eq_true.mpr h.chars⟩⟩

/-- The characters of the names of packages: small ASCII letters and digits, `_` and `$`. -/
def isPackageChar (c : Char) : Bool := c.isLower || c.isDigit || c == '_' || c == '$'

namespace IsWord

variable {kind : Char → Bool} {s t : String}

theorem append (hs : IsWord kind s) (ht : IsWord kind t) : IsWord kind (s ++ t) where
  ne_empty := fun h => hs.ne_empty (String.append_eq_empty_iff.mp h).1
  chars := by
    intro c hc
    rw [String.toList_append, List.mem_append] at hc
    exact hc.elim (hs.chars c) (ht.chars c)

theorem not_mem (h : IsWord kind s) {c : Char} (hc : kind c = false) : c ∉ s.toList := by
  intro hmem
  rw [h.chars c hmem] at hc
  cases hc

/-- A word without slashes and points leads from a directory to something in it. -/
theorem isPlain (h : IsWord kind s) (hslash : kind '/' = false) (hpoint : kind '.' = false) :
    IsPlain s where
  ne_empty := h.ne_empty
  no_slash := h.not_mem hslash
  ne_point := by
    intro heq
    subst heq
    exact h.not_mem hpoint (List.mem_cons_self ..)
  ne_points := by
    intro heq
    subst heq
    exact h.not_mem hpoint (List.mem_cons_self ..)

end IsWord

/-- An identifier is a word of the kind that its characters are of when they may stand in one. -/
theorem isWord_identifierChars {kind : Char → Bool} {s : List Char} (hmark : kind '_' = true)
    (hs : ∀ c ∈ s, kind (Source.identifierChar c) = true) :
    IsWord kind (String.ofList (Source.identifierChars s)) := by
  have hmap : ∀ c ∈ s.map Source.identifierChar, kind c = true := by
    intro c hc
    obtain ⟨d, hd, rfl⟩ := List.mem_map.mp hc
    exact hs d hd
  rw [Source.identifierChars, Source.mark]
  split
  next =>
    constructor
    · intro h
      cases String.ofList_eq_empty_iff.mp h
    · rw [String.toList_ofList]
      exact List.forall_mem_cons.mpr ⟨hmark, hmap⟩
  next hmarked =>
    constructor
    · intro h
      rw [String.ofList_eq_empty_iff.mp h] at hmarked
      exact hmarked rfl
    · rw [String.toList_ofList]
      exact hmap

/-- The name of a type is a word of ASCII letters and digits, `_` and `$`. -/
theorem isWord_typeName (uri : Uri) : IsWord Source.isIdentifierChar (Source.typeName uri) :=
  isWord_identifierChars rfl fun c _ => Source.isIdentifierChar_identifierChar c

/-- A part of a package is a word of small ASCII letters and digits, `_` and `$`. -/
theorem isWord_packagePart (s : List Char) :
    IsWord isPackageChar (PackageMapper.packagePart s) := by
  refine isWord_identifierChars (by decide) fun c hc => ?_
  obtain ⟨d, -, hd⟩ := List.mem_flatMap.mp hc
  have hupper := Text.isUpper_of_mem_lower hd
  rw [Source.identifierChar]
  split
  next hidentifier =>
    change ((c.isUpper || c.isLower) || c.isDigit || c == '_' || c == '$') = true at hidentifier
    rwa [hupper, Bool.false_or] at hidentifier
  next => rfl

/-! ## Packages -/

/-- The parts of a package are words. -/
def IsPlainPackage (package : String) : Prop :=
  ∀ name ∈ pointParts package, IsWord isPackageChar name

/-- Words with points between them are taken apart into these words. -/
theorem pointParts_intercalate {names : List String} (hne : names ≠ [])
    (hnames : ∀ name ∈ names, IsWord isPackageChar name) :
    pointParts (String.intercalate "." names) = names := by
  have hsplit : (List.intercalate ['.'] (names.map String.toList)).splitOn '.'
      = names.map String.toList := by
    refine List.splitOn_intercalate '.' ?_ (by simpa using hne)
    intro chars hchars
    obtain ⟨name, hname, rfl⟩ := List.mem_map.mp hchars
    exact (hnames name hname).not_mem rfl
  have hpoint : ".".toList = ['.'] := rfl
  rw [pointParts, String.toList_intercalate, hpoint, hsplit, List.map_map]
  simp

theorem isPlainPackage_intercalate {names : List String} (hne : names ≠ [])
    (hnames : ∀ name ∈ names, IsWord isPackageChar name) :
    IsPlainPackage (String.intercalate "." names) := by
  rwa [IsPlainPackage, pointParts_intercalate hne hnames]

theorem Emission.pointParts_implementationPart :
    pointParts Emission.implementationPart = [Emission.implementationPart] := by
  decide +kernel

/-- Implementations of their own package have one like the others. -/
theorem IsPlainPackage.implementationPackage {package : String} (h : IsPlainPackage package)
    (options : Emission.EmissionOptions) :
    IsPlainPackage (Emission.implementationPackage options package) := by
  rw [Emission.implementationPackage]
  split
  next =>
    intro name hname
    rw [pointParts_append, List.mem_append] at hname
    rcases hname with hname | hname
    · exact h name hname
    · rw [Emission.pointParts_implementationPart, List.mem_singleton] at hname
      rw [hname]
      decide +kernel
  next => exact h

end Ontogen
