import Ontogen.Proofs.Emission.Resolution
import Ontogen.Proofs.Source.Identifier
import Ontogen.Proofs.Text.Cut

/-!
# Legal names

A name that is declared has to have the form of an identifier and may not be a reserved word.
Here the form is told by characters in order, apart from how identifiers are made, and the two
are the same (`isLegalName_iff`). A name that is legal at first may be changed afterwards: the
first letter of a type becomes small in the name of an instance, which makes reserved words
like `class` of types like `Class`, and a number may follow. It is legal all the same.

Main result: `names_legal`.
-/

namespace Ontogen

namespace Source

/-! ## The form of names -/

/-- A character that a name may begin with: an ASCII letter, `_` or `$`. -/
def IsOpening (c : Char) : Prop := 'A' ≤ c ∧ c ≤ 'Z' ∨ 'a' ≤ c ∧ c ≤ 'z' ∨ c = '_' ∨ c = '$'

/-- A name that may be declared: a character that may be the first, and after it such characters
and ASCII digits, which are no reserved word together. -/
structure IsLegalName (name : String) : Prop where
  form : ∃ c cs, name.toList = c :: cs ∧ IsOpening c ∧ ∀ d ∈ cs, IsOpening d ∨ '0' ≤ d ∧ d ≤ '9'
  not_reserved : name ∉ reservedWords

variable {c : Char} {name : String}

theorem isDigit_iff : c.isDigit = true ↔ '0' ≤ c ∧ c ≤ '9' := by
  show (decide ('0' ≤ c) && decide (c ≤ '9')) = true ↔ _
  simp

theorem isLower_iff : c.isLower = true ↔ 'a' ≤ c ∧ c ≤ 'z' := by
  show (decide ('a' ≤ c) && decide (c ≤ 'z')) = true ↔ _
  simp

theorem isIdentifierChar_iff :
    isIdentifierChar c = true ↔ IsOpening c ∨ '0' ≤ c ∧ c ≤ '9' := by
  have hupper : c.isUpper = true ↔ 'A' ≤ c ∧ c ≤ 'Z' := decide_eq_true_iff
  show ((((c.isUpper || c.isLower) || c.isDigit) || c == '_') || c == '$') = true ↔ _
  unfold IsOpening
  simp only [Bool.or_eq_true, beq_iff_eq, hupper, isLower_iff, isDigit_iff]
  simp only [or_assoc, or_comm, or_left_comm]

theorem IsOpening.isIdentifierChar (h : IsOpening c) : isIdentifierChar c = true :=
  isIdentifierChar_iff.mpr (.inl h)

theorem isOpening_of_isLower (h : c.isLower = true) : IsOpening c :=
  .inr (.inl (isLower_iff.mp h))

/-- Digits are the characters of names that none begins with. -/
theorem IsOpening.not_isDigit (h : IsOpening c) : c.isDigit = false := by
  rw [Bool.eq_false_iff]
  intro hdigit
  obtain ⟨-, hnine⟩ := isDigit_iff.mp hdigit
  -- Only `$` is before the digits, and all other characters of names come after them.
  rcases h with ⟨hA, -⟩ | ⟨ha, -⟩ | rfl | rfl
  · exact absurd (Char.le_trans hA hnine) (by decide)
  · exact absurd (Char.le_trans ha hnine) (by decide)
  · cases hdigit
  · cases hdigit

/-- The names that are legal are the identifiers. -/
theorem isLegalName_iff : IsLegalName name ↔ IsIdentifier name := by
  constructor
  · rintro ⟨⟨c, cs, hname, hopening, hlater⟩, hword⟩
    refine ⟨?_, ⟨c, ?_, hopening.not_isDigit⟩, hword⟩
    · rw [hname]
      exact List.forall_mem_cons.mpr
        ⟨hopening.isIdentifierChar, fun d hd => isIdentifierChar_iff.mpr (hlater d hd)⟩
    · rw [hname]
      rfl
  · rintro ⟨hchars, ⟨c, hstart, hdigit⟩, hword⟩
    obtain ⟨cs, hname⟩ := List.head?_eq_some_iff.mp hstart
    rw [hname, List.forall_mem_cons] at hchars
    refine ⟨⟨c, cs, hname, ?_, fun d hd => isIdentifierChar_iff.mp (hchars.2 d hd)⟩, hword⟩
    rcases isIdentifierChar_iff.mp hchars.1 with hopening | hrange
    · exact hopening
    · rw [isDigit_iff.mpr hrange] at hdigit
      cases hdigit

/-! ## Reserved words in other letters -/

/-- A URI that is an identifier is itself the name of its type. -/
theorem typeName_of_isIdentifier (h : IsIdentifier name) : typeName name = name := by
  have hnot : ∀ c, isIdentifierChar c = false → c ∉ name.toList := by
    intro c hc hmem
    rw [h.chars c hmem] at hc
    cases hc
  have hslash : name.toList.getLast? ≠ some '/' :=
    fun hlast => hnot '/' rfl (List.mem_of_getLast? hlast)
  have hlocal : Uri.localName name = name := by
    rw [Uri.localName, Uri.localChars, if_neg (hnot '#' rfl), Text.dropEnd_of_getLast? hslash,
      Text.afterLast_of_not_mem (hnot '/' rfl), String.ofList_toList]
  rw [typeName, hlocal, identifier_eq_self_iff]
  exact h

/-- A small letter has a capital, which is none itself and has it for a small letter. -/
theorem toUpper_of_isLower (h : c.isLower = true) : c.toNat < 0x80
    ∧ c.toUpper.isDigit = false ∧ c.toUpper.isLower = false ∧ c.toUpper.toNat < 0x80
    ∧ c.toUpper.toLower = c := by
  have hascii : c.toNat < 0x80 :=
    toNat_of_isIdentifierChar (isOpening_of_isLower h).isIdentifierChar
  refine ⟨hascii, ?_⟩
  exact forall_of_ascii (P := fun c => c.isLower = true → c.toUpper.isDigit = false
    ∧ c.toUpper.isLower = false ∧ c.toUpper.toNat < 0x80 ∧ c.toUpper.toLower = c)
    (by decide +kernel) hascii h

/-- A reserved word is an identifier with a capital in front, and comes back with a small
letter. -/
theorem upperFirst_of_mem_reservedWords {word : String} (h : word ∈ reservedWords) :
    IsIdentifier (upperFirst word) ∧ lowerFirst (upperFirst word) = word := by
  have hlower := isLower_of_mem_reservedWords word h
  have hpart : IsNamePart word :=
    fun c hc => (isOpening_of_isLower (hlower c hc)).isIdentifierChar
  cases hword : word.toList with
  | nil =>
    rw [String.toList_eq_nil_iff.mp hword] at h
    exact absurd h (by decide)
  | cons c cs =>
    obtain ⟨hascii, hdigit, hcapital, hascii', hback⟩ :=
      toUpper_of_isLower (hlower c (hword ▸ List.mem_cons_self ..))
    have hchars : (upperFirst word).toList = c.toUpper :: cs := by
      rw [upperFirst, String.toList_ofList, hword, Text.upperFirst, Text.upper_of_ascii hascii]
      rfl
    constructor
    · refine ⟨hpart.upperFirst, ⟨c.toUpper, by rw [hchars]; rfl, hdigit⟩, fun hmem => ?_⟩
      have hsmall := isLower_of_mem_reservedWords _ hmem c.toUpper
        (hchars ▸ List.mem_cons_self ..)
      rw [hcapital] at hsmall
      cases hsmall
    · rw [lowerFirst, hchars, Text.lowerFirst, Text.lower_of_ascii hascii', hback,
        List.singleton_append, ← hword, String.ofList_toList]

end Source

namespace Emission

open Source (IsIdentifier IsLegalName identifier instanceName isLegalName_iff lowerFirst
  reservedWords typeName upperFirst)
open Data

/-! ## Names of fields -/

/-- The fields of instances are named by identifiers, with their numbers too. -/
theorem isIdentifier_field {c : SchemaClass} {classes : ClassMap} {packages : PackageMap}
    {hs : List Holder} (h : holders c classes packages = .ok hs) {holder : Holder}
    (hholder : holder ∈ hs) : IsIdentifier holder.field := by
  unfold holders at h
  obtain ⟨refs, -, h⟩ := bind_eq_ok_iff.mp h
  obtain ⟨ds, hds, rfl⟩ := holdersFrom_eq_ok_iff.mp h
  have hlength : refs.length = ds.length := by simpa using congrArg List.length hds
  have hfield := List.mem_map_of_mem (f := Holder.field) hholder
  rw [map_field_holdersWith hlength] at hfield
  obtain ⟨base, hbase, hname⟩ := mem_freshNames hfield
  obtain ⟨s, -, rfl⟩ := List.mem_map.mp hbase
  have hinstance := Source.isIdentifier_instanceName s
  rcases hname with hname | ⟨n, hname⟩
  · rwa [hname]
  · rw [hname]
    exact hinstance.append_repr n

/-- Whatever a name looks like, its identifier is a legal name. Legal names, and no others, are
left as they are, so nothing is changed the second time. Types, properties and instances have
legal names whatever the URI looks like, a number may follow the name of an instance, and the
fields of the instances that an implementation holds have legal names. This is so although every
reserved word comes out when the name of some type gets a small letter in front. -/
theorem names_legal (name : String) (uri : Uri) (p : SchemaProperty) (c : SchemaClass)
    (classes : ClassMap) (packages : PackageMap) :
    IsLegalName (identifier name)
      ∧ (identifier name = name ↔ IsLegalName name)
      ∧ identifier (identifier name) = identifier name
      ∧ IsLegalName (typeName uri) ∧ IsLegalName p.name ∧ IsLegalName (instanceName uri)
      ∧ (∀ n, IsLegalName (numbered (instanceName uri) n))
      ∧ (∀ hs, holders c classes packages = .ok hs → ∀ h ∈ hs, IsLegalName h.field)
      ∧ ∀ word ∈ reservedWords, ∃ u, lowerFirst (typeName u) = word
          ∧ instanceName u = "_" ++ word := by
  have hidentifier : IsIdentifier (identifier name) := Source.isIdentifier_identifier name
  have hinstance : IsIdentifier (instanceName uri) := Source.isIdentifier_instanceName uri
  refine ⟨isLegalName_iff.mpr hidentifier, ?_, Source.identifier_eq_self_iff.mpr hidentifier,
    isLegalName_iff.mpr (Source.isIdentifier_typeName uri),
    isLegalName_iff.mpr (Source.isIdentifier_identifier _), isLegalName_iff.mpr hinstance,
    fun n => isLegalName_iff.mpr (hinstance.append_repr n), ?_, ?_⟩
  · rw [Source.identifier_eq_self_iff, isLegalName_iff]
  · exact fun hs hrun h hh => isLegalName_iff.mpr (isIdentifier_field hrun hh)
  · intro word hword
    obtain ⟨hcapital, hback⟩ := Source.upperFirst_of_mem_reservedWords hword
    have htype : lowerFirst (typeName (upperFirst word)) = word := by
      rw [Source.typeName_of_isIdentifier hcapital, hback]
    refine ⟨upperFirst word, htype, ?_⟩
    rw [instanceName, htype]
    exact if_pos (Source.isReserved_toList word |>.mpr hword)

/-! ## Two classes with a reserved name

The instances of two superclasses would be named by a reserved word with a mark in front, which
is already the name of a property. -/

def schoolClass : SchemaClass where
  uri := "http://schools/Class"

def lessonClass : SchemaClass where
  uri := "http://lessons/Class"

def course : SchemaClass where
  uri := "http://schools/Course"
  superclasses := [schoolClass.uri, lessonClass.uri]
  properties := [{ uri := "http://schools/_class" }]

def courses : ClassMap := .ofList ([course, schoolClass, lessonClass].map fun c => (c.uri, c))

def coursePackages : PackageMap :=
  .ofList [(schoolClass.uri, "schools"), (lessonClass.uri, "lessons")]

theorem course_names_legal :
    identifier "2nd class" = "_2nd_class" ∧ IsLegalName "_2nd_class"
      ∧ lowerFirst (typeName schoolClass.uri) = "class"
      ∧ instanceName schoolClass.uri = "_class" ∧ IsLegalName "_class"
      ∧ ∃ hs, holders course courses coursePackages = .ok hs
        ∧ hs.map Holder.field = ["_class2", "_class3"]
        ∧ ∀ h ∈ hs, IsLegalName h.field := by
  have hmarked : identifier "2nd class" = "_2nd_class" := by decide +kernel
  have hinstance : instanceName schoolClass.uri = "_class" := by decide +kernel
  have hfields : (holders course courses coursePackages).map (List.map Holder.field)
      = .ok ["_class2", "_class3"] := by decide +kernel
  obtain ⟨hs, hrun, hnames⟩ := map_eq_ok_iff.mp hfields
  obtain ⟨hidentifier, -, -, -, -, hlegal, -, hheld, -⟩ := names_legal "2nd class" schoolClass.uri
    { uri := "http://schools/_class" } course courses coursePackages
  rw [hmarked] at hidentifier
  rw [hinstance] at hlegal
  exact ⟨hmarked, hidentifier, by decide +kernel, hinstance, hlegal, hs, hrun, hnames,
    hheld hs hrun⟩

end Emission

end Ontogen
