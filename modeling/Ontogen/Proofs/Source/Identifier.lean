import Mathlib.Data.List.Basic
import Ontogen.Source.Identifier
import Ontogen.Text.Printable

/-!
# What identifiers look like

A text needs a mark in front exactly when it is empty, begins with a digit or is a reserved
word (`needsMark_eq_false_iff`). A text with a mark begins with one, and no reserved word
does, so it needs none again (`needsMark_mark`). The characters of identifiers stay such
characters in the other case of letters, and reserved words are made of small letters alone
(`isLower_of_mem_reservedWords`).

* `isIdentifier_identifierChars`, `identifier_eq_self_iff`: what is made an identifier may name
  something, and what may name something is left as it is.
* `isIdentifier_instanceName`, `IsIdentifier.append_repr`: names that are made of identifiers by
  a small letter in front or a number at the end may name something too.
-/

namespace Ontogen.Source

/-- A text that may name something: characters of identifiers, at least one and no digit in
front, that are no reserved word. -/
structure IsIdentifier (name : String) : Prop where
  chars : ∀ c ∈ name.toList, isIdentifierChar c = true
  start : ∃ c, name.toList.head? = some c ∧ c.isDigit = false
  not_reserved : name ∉ reservedWords

theorem isReserved_toList (name : String) :
    isReserved name.toList = true ↔ name ∈ reservedWords := by
  have hinj : Function.Injective String.toList := fun _ _ h => String.toList_injective h
  rw [isReserved, List.contains_iff_mem, List.mem_map_of_injective hinj]

theorem needsMark_eq_false_iff (s : List Char) : needsMark s = false
    ↔ (∃ c, s.head? = some c ∧ c.isDigit = false) ∧ isReserved s = false := by
  cases s with
  | nil => simp [needsMark]
  | cons c s => simp [needsMark]

/-- Reserved words are made of small letters. -/
theorem isLower_of_mem_reservedWords :
    ∀ word ∈ reservedWords, ∀ c ∈ word.toList, c.isLower = true := by
  have hall : (reservedWords.all fun word => word.toList.all Char.isLower) = true := by
    decide +kernel
  intro word hword
  exact List.all_eq_true.mp (List.all_eq_true.mp hall word hword)

theorem isReserved_marked (s : List Char) : isReserved ('_' :: s) = false := by
  rw [Bool.eq_false_iff]
  intro h
  unfold isReserved at h
  obtain ⟨word, hword, heq⟩ := List.mem_map.mp (List.contains_iff_mem.mp h)
  have hlower := isLower_of_mem_reservedWords word hword '_' (heq ▸ List.mem_cons_self ..)
  cases hlower

/-- One mark is enough. -/
theorem needsMark_mark (s : List Char) : needsMark (mark s) = false := by
  unfold mark
  split
  next => exact (needsMark_eq_false_iff _).mpr ⟨⟨'_', rfl, rfl⟩, isReserved_marked s⟩
  next h => exact Bool.eq_false_iff.mpr h

/-- The identifier for a name may name something. -/
theorem isIdentifier_identifierChars (s : List Char) :
    IsIdentifier (String.ofList (identifierChars s)) := by
  have hmark : needsMark (identifierChars s) = false := needsMark_mark _
  obtain ⟨hstart, hword⟩ := (needsMark_eq_false_iff _).mp hmark
  constructor
  · rw [String.toList_ofList]
    exact List.all_eq_true.mp (all_isIdentifierChar_identifierChars s)
  · rw [String.toList_ofList]
    exact hstart
  · rw [← isReserved_toList, String.toList_ofList, hword]
    exact Bool.false_ne_true

theorem isIdentifier_identifier (name : String) : IsIdentifier (identifier name) :=
  isIdentifier_identifierChars name.toList

theorem isIdentifier_typeName (uri : Uri) : IsIdentifier (typeName uri) :=
  isIdentifier_identifier _

/-- Just the texts that may name something are left as they are. -/
theorem identifier_eq_self_iff {name : String} : identifier name = name ↔ IsIdentifier name := by
  constructor
  · intro h
    rw [← h]
    exact isIdentifier_identifier name
  · intro h
    have hword : isReserved name.toList = false := by
      rw [Bool.eq_false_iff, ne_eq, isReserved_toList]
      exact h.not_reserved
    have hmark : needsMark name.toList = false :=
      (needsMark_eq_false_iff _).mpr ⟨h.start, hword⟩
    have hchars : name.toList.map identifierChar = name.toList :=
      (List.map_congr_left fun c hc => identifierChar_of_isIdentifierChar (h.chars c hc)).trans
        (List.map_id _)
    rw [identifier, identifierChars, hchars, mark, hmark, if_neg Bool.false_ne_true,
      String.ofList_toList]

/-! ## Letter case -/

theorem toNat_of_isIdentifierChar {c : Char} (h : isIdentifierChar c = true) :
    c.toNat < 0x80 := by
  simp only [isIdentifierChar, Bool.or_eq_true, beq_iff_eq] at h
  rcases h with (h | rfl) | rfl
  · have hrange := Text.toNat_of_isAlphanum h
    omega
  · decide
  · decide

/-- What holds of the ASCII characters by their codes. -/
theorem forall_of_ascii {P : Char → Prop} (h : ∀ n, n < 0x80 → P (Char.ofNat n)) {c : Char}
    (hc : c.toNat < 0x80) : P c := by
  have hcode := h c.toNat hc
  rwa [Char.ofNat_toNat] at hcode

theorem isIdentifierChar_of_mem_lower {c d : Char} (hc : isIdentifierChar c = true)
    (h : d ∈ Text.lower c) : isIdentifierChar d = true := by
  have hascii := toNat_of_isIdentifierChar hc
  rw [Text.lower_of_ascii hascii] at h
  rw [List.mem_singleton.mp h]
  exact forall_of_ascii (P := fun c => isIdentifierChar c = true → isIdentifierChar c.toLower = true)
    (by decide +kernel) hascii hc

theorem isIdentifierChar_of_mem_upper {c d : Char} (hc : isIdentifierChar c = true)
    (h : d ∈ Text.upper c) : isIdentifierChar d = true := by
  have hascii := toNat_of_isIdentifierChar hc
  rw [Text.upper_of_ascii hascii] at h
  rw [List.mem_singleton.mp h]
  exact forall_of_ascii (P := fun c => isIdentifierChar c = true → isIdentifierChar c.toUpper = true)
    (by decide +kernel) hascii hc

/-- A text of characters that may stand in identifiers. -/
def IsNamePart (s : String) : Prop := ∀ c ∈ s.toList, isIdentifierChar c = true

theorem isNamePart_identifier (name : String) : IsNamePart (identifier name) :=
  (isIdentifier_identifierChars name.toList).chars

/-- Only the first character is written in the other case. -/
theorem forall_mem_first {f : Char → List Char} {c : Char} {cs : List Char}
    (hf : ∀ d, isIdentifierChar c = true → d ∈ f c → isIdentifierChar d = true)
    (h : ∀ d ∈ c :: cs, isIdentifierChar d = true) :
    ∀ d ∈ f c ++ cs, isIdentifierChar d = true := by
  obtain ⟨hc, hcs⟩ := List.forall_mem_cons.mp h
  exact List.forall_mem_append.mpr ⟨fun d hd => hf d hc hd, hcs⟩

theorem IsNamePart.lowerFirst {s : String} (h : IsNamePart s) : IsNamePart (lowerFirst s) := by
  unfold IsNamePart at h ⊢
  rw [Source.lowerFirst, String.toList_ofList]
  cases hs : s.toList with
  | nil => exact fun d hd => by cases hd
  | cons c cs =>
    rw [hs] at h
    exact forall_mem_first (fun _ hc hd => isIdentifierChar_of_mem_lower hc hd) h

theorem IsNamePart.upperFirst {s : String} (h : IsNamePart s) : IsNamePart (upperFirst s) := by
  unfold IsNamePart at h ⊢
  rw [Source.upperFirst, String.toList_ofList]
  cases hs : s.toList with
  | nil => exact fun d hd => by cases hd
  | cons c cs =>
    rw [hs] at h
    exact forall_mem_first (fun _ hc hd => isIdentifierChar_of_mem_upper hc hd) h

theorem IsNamePart.append {s t : String} (hs : IsNamePart s) (ht : IsNamePart t) :
    IsNamePart (s ++ t) := by
  intro c hc
  rw [String.toList_append, List.mem_append] at hc
  exact hc.elim (hs c) (ht c)

/-! ## Names made of identifiers -/

variable {s : String}

/-- Of a letter in front that becomes small, no digit comes. -/
theorem IsIdentifier.start_lowerFirst (h : IsIdentifier s) :
    ∃ c, (lowerFirst s).toList.head? = some c ∧ c.isDigit = false := by
  obtain ⟨c, hstart, hdigit⟩ := h.start
  rw [lowerFirst, String.toList_ofList]
  cases hs : s.toList with
  | nil =>
    rw [hs] at hstart
    cases hstart
  | cons d cs =>
    rw [hs] at hstart
    obtain rfl := Option.some.inj hstart
    have hascii : d.toNat < 0x80 :=
      toNat_of_isIdentifierChar (h.chars d (hs ▸ List.mem_cons_self ..))
    refine ⟨d.toLower, ?_, ?_⟩
    · rw [Text.lowerFirst, Text.lower_of_ascii hascii]
      rfl
    · exact forall_of_ascii (P := fun c => c.isDigit = false → c.toLower.isDigit = false)
        (by decide +kernel) hascii hdigit

theorem IsNamePart.isIdentifier_marked (h : IsNamePart s) : IsIdentifier ("_" ++ s) where
  chars := by
    have hmark : IsNamePart "_" := fun c hc => by rw [List.mem_singleton.mp hc]; decide
    exact hmark.append h
  start := by
    refine ⟨'_', ?_, rfl⟩
    rw [String.toList_append]
    rfl
  not_reserved := by
    rw [← isReserved_toList, String.toList_append]
    exact Bool.eq_false_iff.mp (isReserved_marked s.toList)

/-- A small letter may make a reserved word of an identifier, which then gets a mark. -/
theorem isIdentifier_instanceName (uri : Uri) : IsIdentifier (instanceName uri) := by
  have htype : IsIdentifier (typeName uri) := isIdentifier_typeName uri
  have hchars : IsNamePart (lowerFirst (typeName uri)) := IsNamePart.lowerFirst htype.chars
  unfold instanceName
  dsimp only
  split
  next => exact hchars.isIdentifier_marked
  next hword =>
    refine ⟨hchars, htype.start_lowerFirst, fun hmem => hword ?_⟩
    rwa [isReserved_toList]

theorem isDigit_of_mem_repr {n : Nat} {c : Char} (hc : c ∈ n.repr.toList) : c.isDigit = true := by
  rw [Nat.repr_eq_ofList_toDigits, String.toList_ofList] at hc
  exact Nat.isDigit_of_mem_toDigits (by decide) (by decide) hc

theorem not_isLower_of_isDigit {c : Char} (h : c.isDigit = true) : c.isLower = false :=
  forall_of_ascii (P := fun c => c.isDigit = true → c.isLower = false) (by decide +kernel)
    (toNat_of_isIdentifierChar (by simp [isIdentifierChar, Char.isAlphanum, h])) h

theorem isNamePart_repr (n : Nat) : IsNamePart n.repr := by
  intro c hc
  simp [isIdentifierChar, Char.isAlphanum, isDigit_of_mem_repr hc]

/-- An identifier with a number after it is no reserved word, since these are all letters. -/
theorem IsIdentifier.append_repr (h : IsIdentifier s) (n : Nat) : IsIdentifier (s ++ n.repr) where
  chars := IsNamePart.append h.chars (isNamePart_repr n)
  start := by
    obtain ⟨c, hstart, hdigit⟩ := h.start
    refine ⟨c, ?_, hdigit⟩
    rw [String.toList_append, List.head?_append, hstart]
    rfl
  not_reserved := by
    have hsome : n.repr.toList ≠ [] := by
      rw [Nat.repr_eq_ofList_toDigits, String.toList_ofList]
      exact Nat.toDigits_ne_nil
    obtain ⟨c, hc⟩ := List.exists_mem_of_ne_nil _ hsome
    have hdigit := isDigit_of_mem_repr hc
    intro hword
    have hlower := isLower_of_mem_reservedWords _ hword c
      (by rw [String.toList_append]; exact List.mem_append_right _ hc)
    rw [not_isLower_of_isDigit hdigit] at hlower
    cases hlower

end Ontogen.Source
