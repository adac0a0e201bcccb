import Ontogen.Proofs.Emission.FieldLines
import Ontogen.Proofs.Emission.Imports
import Ontogen.Proofs.Emission.LegalNames
import Ontogen.Proofs.Emission.Tokens

/-!
# Spacing of generated sources

The sources of types are made of names, which are single lines whatever the URIs look like, of
descriptions, which are squeezed into one line or wrapped into several, and of the texts that
are taken as they are: URIs, packages and the import of the annotation. When the latter are
single lines nothing but the layout of a unit makes lines, and so a source has its empty lines
just between its parts.

Main result: `sources_spaced`.
-/

namespace Ontogen

open Source (IsLine IsNamePart isLine_append_iff isLine_iff_noGap typeName)

/-! ## Texts of properties -/

theorem SchemaProperty.isLine_javaType (p : SchemaProperty) : IsLine p.javaType :=
  p.isOneLine_javaType.isLine

/-- A comment of a property is squeezed into a line. Only the URI in its place may have more. -/
theorem SchemaProperty.isLine_doc {p : SchemaProperty} (h : IsLine p.uri) : IsLine p.doc :=
  isLine_iff_noGap.mpr (p.noGap_doc Source.endsLines_feed (isLine_iff_noGap.mp h))

namespace Emission

open Source (Member)

section Sources

variable {c : SchemaClass} {classes : ClassMap} {packages : PackageMap}

/-- The texts that are taken as they are for the types of a class are lines: the URIs of the
class and the properties that are taken in, the packages of the class and its superclasses, and
the import of the annotation. -/
structure TakesLines (options : EmissionOptions) (c : SchemaClass) (classes : ClassMap)
    (packages : PackageMap) : Prop where
  uri : IsLine c.uri
  property : ∀ p, IsTakenIn c classes p → IsLine p.uri
  package : ∀ u ∈ c.uri :: c.superclasses, ∀ package, packages.find? u = some package →
    IsLine package
  imported : IsLine options.annotationImport

variable {options : EmissionOptions}

/-- It is enough when all URIs of properties and all packages in the maps are lines. -/
theorem TakesLines.of_maps (huri : IsLine c.uri) (hown : ∀ p ∈ c.properties, IsLine p.uri)
    (hclasses : ∀ d ∈ classes.values, ∀ p ∈ d.properties, IsLine p.uri)
    (hpackages : ∀ package ∈ packages.values, IsLine package)
    (himported : IsLine options.annotationImport) : TakesLines options c classes packages where
  uri := huri
  property := by
    rintro p (hp | ⟨s, -, d, hd, hp⟩)
    · exact hown p hp
    · exact hclasses d (Data.OrderedMap.mem_values_of_find? hd) p hp
  package := fun _ _ package hpackage =>
    hpackages package (Data.OrderedMap.mem_values_of_find? hpackage)
  imported := himported

/-! ## Parts of a source -/

theorem isLine_of_mem_classComment (h : IsLine c.uri) {line : String}
    (hline : line ∈ classComment c) : IsLine line := by
  unfold classComment at hline
  split at hline
  next => exact Source.isLine_of_mem_wrapComment hline
  next => rwa [List.mem_singleton.mp hline]

theorem isLine_text_reference {ref : Source.TypeReference} (hname : IsLine ref.name)
    (hpackage : ∀ package ∈ ref.package, IsLine package) : IsLine ref.text := by
  unfold Source.TypeReference.text
  split
  next package heq =>
    simp only [isLine_append_iff]
    exact ⟨⟨hpackage package heq, by decide⟩, hname⟩
  next => exact hname

theorem isLine_text_implementation {name : String} {interfaces : List Source.TypeReference}
    (hname : IsLine name) (h : ∀ ref ∈ interfaces, IsLine ref.text) :
    IsLine (Header.implementation name interfaces).text := by
  have hlist : IsLine (String.intercalate ", " (interfaces.map Source.TypeReference.text)) := by
    refine Source.isLine_intercalate (by decide) fun text htext => ?_
    obtain ⟨ref, href, rfl⟩ := List.mem_map.mp htext
    exact h ref href
  unfold Header.text
  simp only [isLine_append_iff]
  exact ⟨⟨⟨by decide, hname⟩, by decide⟩, hlist⟩

theorem TakesLines.isLine_referenceTo (h : TakesLines options c classes packages) {s : Uri}
    (hs : s ∈ distinctSuperclasses c) : IsLine (referenceTo c packages s).text := by
  refine isLine_text_reference (Source.isNamePart_identifier _).isLine fun package hpackage => ?_
  have hmem := List.mem_cons_of_mem c.uri (mem_distinctSuperclasses.mp hs).1
  unfold referenceTo at hpackage
  dsimp only at hpackage
  split at hpackage
  next => exact h.package s hmem package hpackage
  next => cases hpackage

theorem TakesLines.isLine_referenceToSelf (h : TakesLines options c classes packages) :
    IsLine (referenceToSelf c packages).text := by
  refine isLine_text_reference (Source.isNamePart_identifier _).isLine fun package hpackage => ?_
  unfold referenceToSelf at hpackage
  dsimp only at hpackage
  split at hpackage
  next => exact h.package c.uri (List.mem_cons_self ..) package hpackage
  next => cases hpackage

namespace Resolution

variable (r : Resolution c classes packages)

theorem isNamePart_field {h : Holder} (hh : h ∈ r.holders) : IsNamePart h.field :=
  (isIdentifier_field r.holders_eq_ok hh).chars

theorem isLine_type (hlines : TakesLines options c classes packages) {h : Holder}
    (hh : h ∈ r.holders) : IsLine h.type.text := by
  have hmem : h.type ∈ r.holders.map Holder.type := List.mem_map_of_mem hh
  rw [r.map_type_holders] at hmem
  obtain ⟨s, hs, htype⟩ := List.mem_map.mp hmem
  rw [← htype]
  exact hlines.isLine_referenceTo hs

end Resolution

theorem isLined_accessors {body : Source.AccessorBody} (p : SchemaProperty)
    (hbody : ∀ holder, body = .forward holder → IsLine holder) :
    (Member.accessors (accessorsOf body p)).IsLined := by
  have hname := Source.isNamePart_identifier (Uri.localName p.uri)
  exact ⟨p.isLine_javaType, hname.isLine, hname.upperFirst.isLine, hbody⟩

theorem Resolution.isLined_member (r : Resolution c classes packages)
    (hlines : TakesLines options c classes packages) {m : Member}
    (hm : m ∈ (r.implementation options).members) : m.IsLined := by
  rcases r.member_cases options hm with ⟨p, hp, rfl⟩ | ⟨h, hh, rfl⟩ | ⟨body, p, rfl, hbody⟩
  · refine ⟨SchemaProperty.isLine_doc (hlines.property p hp), ?_, p.isLine_javaType,
      (Source.isNamePart_identifier _).isLine⟩
    intro uri huri
    rw [fieldOf] at huri
    dsimp only at huri
    split at huri
    next =>
      obtain rfl := Option.some.inj huri
      exact hlines.property p hp
    next => cases huri
  · exact ⟨(Source.isNamePart_identifier _).isLine, r.isLine_type hlines hh,
      (r.isNamePart_field hh).isLine⟩
  · refine isLined_accessors p fun holder hholder => ?_
    rcases hbody with rfl | ⟨h, hh, rfl⟩
    · cases hholder
    · obtain rfl := Source.AccessorBody.forward.inj hholder
      exact (r.isNamePart_field hh).isLine

theorem Resolution.isLined_unit (r : Resolution c classes packages)
    (hlines : TakesLines options c classes packages) :
    (r.implementation options).unit.IsLined := by
  have hname : IsLine (typeName c.uri) := (Source.isNamePart_identifier _).isLine
  have hpackage : IsLine r.package :=
    hlines.package c.uri (List.mem_cons_self ..) r.package r.find?_package
  have htheirs : ∀ p ∈ r.importedPackages, IsLine p := by
    intro p hp
    have hmem := Data.mem_ascending.mp (List.mem_filter.mp hp).1
    obtain ⟨s, hs, hfind⟩ := (mem_iff_of_map_find? r.find?_superclassPackages p).mp hmem
    exact hlines.package s (List.mem_cons_of_mem _ hs) p hfind
  constructor
  · show IsLine (implementationPackage options r.package)
    unfold implementationPackage
    split
    next =>
      simp only [isLine_append_iff]
      exact ⟨⟨hpackage, by decide⟩, by decide⟩
    next => exact hpackage
  · have hwildcard : ∀ p, IsLine p → IsLine (wildcard p) := by
      intro p hp
      exact isLine_append_iff.mpr ⟨hp, by decide⟩
    rw [imports_unit_implementation]
    refine List.forall_mem_append.mpr ⟨List.forall_mem_append.mpr ⟨?_, ?_⟩, fun name hmem => ?_⟩
    · split
      next => exact List.forall_mem_singleton.mpr (hwildcard _ hpackage)
      next => exact fun name hmem => by cases hmem
    · split
      next => exact List.forall_mem_singleton.mpr hlines.imported
      next => exact fun name hmem => by cases hmem
    · obtain ⟨p, hp, rfl⟩ := List.mem_map.mp hmem
      exact hwildcard p (htheirs p hp)
  · exact fun line hline => isLine_of_mem_classComment hlines.uri hline
  · refine isLine_text_implementation hname fun ref href => ?_
    rcases List.mem_cons.mp href with rfl | href
    · exact hlines.isLine_referenceToSelf
    · obtain ⟨s, hs, rfl⟩ := List.mem_map.mp href
      exact hlines.isLine_referenceTo hs

/-! ## Sources -/

theorem Header.text_ne_empty (h : Header) : h.text ≠ "" := by
  intro hempty
  cases h with
  | interface name => exact absurd (String.append_eq_empty_iff.mp hempty).1 (by decide)
  | implementation name interfaces =>
    have hname := (String.append_eq_empty_iff.mp (String.append_eq_empty_iff.mp hempty).1).1
    exact absurd (String.append_eq_empty_iff.mp hname).1 (by decide)

/-- A type whose texts are lines has a source with single empty lines. -/
theorem TypeSource.isSpaced_unit {t : TypeSource} (hunit : t.unit.IsLined)
    (hmembers : ∀ m ∈ t.members, m.IsLined) : t.unit.IsSpaced := by
  refine Source.CompilationUnit.isSpaced hunit t.header.text_ne_empty fun text htext => ?_
  obtain ⟨m, hm, rfl⟩ := List.mem_map.mp htext
  rw [indent, Member.linesOf_text (hmembers m hm)]
  exact m.isBlock_lines

/-- When the URIs, packages and import that are taken as they are are lines, the interface of a
class and its implementation, in both layouts and with all flags, have sources that begin with
the package and end with a brace on a line of its own, that nowhere have two empty lines in
a row, and in which each member is followed by one empty line. The comments are any texts. -/
theorem sources_spaced {t : TypeSource} (hlines : TakesLines options c classes packages)
    (h : interfaceOf c packages = .ok t
      ∨ implementationOf options c classes packages = .ok (some t)) : t.unit.IsSpaced := by
  rcases h with h | h
  · obtain ⟨package, hpackage, rfl⟩ := interfaceOf_eq_ok_iff.mp h
    refine TypeSource.isSpaced_unit ⟨?_, ?_, ?_, ?_⟩ fun m hm => ?_
    · exact hlines.package c.uri (List.mem_cons_self ..) package hpackage
    · exact fun name hname => by cases hname
    · exact fun line hline => isLine_of_mem_classComment hlines.uri hline
    · have hname : IsLine (typeName c.uri) := (Source.isNamePart_identifier _).isLine
      exact isLine_append_iff.mpr ⟨by decide, hname⟩
    · obtain ⟨a, ha, rfl⟩ := List.mem_map.mp hm
      obtain ⟨p, -, rfl⟩ := List.mem_map.mp ha
      exact isLined_accessors p fun holder hholder => by cases hholder
  · obtain ⟨-, r, rfl⟩ := implementationOf_eq_ok_some_iff.mp h
    exact TypeSource.isSpaced_unit (r.isLined_unit hlines) fun m hm => r.isLined_member hlines hm

end Sources

/-! ## Comments of blanks and line breaks -/

namespace Airy

/-- A class whose only property has a comment of blanks alone. -/
def pet : SchemaClass where
  uri := "http://zoo/Pet"
  properties := [{ uri := "http://zoo/name", comment := some "\n \u0085\n" }]

/-- A class whose comment begins and ends with empty lines. -/
def dog : SchemaClass where
  uri := "http://zoo/Dog"
  comment := some "\n\n  Barks,\n\n\nand bites.\n\n"
  superclasses := [pet.uri]
  properties := [{ uri := "http://zoo/age", comment := some "Years\n\n\u2028or less" }]

def classes : ClassMap := .ofList [(dog.uri, dog), (pet.uri, pet)]

def packages : PackageMap := .ofList [(dog.uri, "zoo"), (pet.uri, "")]

def options : EmissionOptions where
  layout := .delegate
  annotate := true
  separate := true

/-- What an implementation of the dogs is made of. -/
def resolution : Resolution dog classes packages where
  package := "zoo"
  superclassPackages := [""]
  definitions := [pet]
  find?_package := by decide
  find?_superclassPackages := by decide
  find?_definitions := by decide

end Airy

theorem dog_sources_spaced :
    TakesLines Airy.options Airy.dog Airy.classes Airy.packages
      ∧ implementationOf Airy.options Airy.dog Airy.classes Airy.packages
          = .ok (some (Airy.resolution.implementation Airy.options))
      ∧ (Airy.resolution.implementation Airy.options).unit.IsSpaced := by
  have hlines : TakesLines Airy.options Airy.dog Airy.classes Airy.packages :=
    .of_maps (by decide) (by decide) (by decide) (by decide) (by decide)
  have himplementation := Airy.resolution.implementationOf_eq_ok Airy.options (by decide)
  exact ⟨hlines, himplementation, sources_spaced hlines (.inr himplementation)⟩

end Emission

end Ontogen
