import Mathlib.Data.List.Find
import Mathlib.Data.Option.Basic
import Ontogen.Proofs.Emission.Missing

/-!
# How the generation of an implementation ends

The look-ups for an implementation are spread over its imports, its header and its members,
and the two layouts go through the superclasses in different ways. Yet how it all ends is told
by the keys of the two maps alone (`implementationStatus`): the first class without a package
or the first superclass without a definition gives the error.

Of the maps the packages of the class and its superclasses are looked up, and of the definitions
of the distinct superclasses only the URIs and the properties are taken. Maps that have the same
for these (`TellSame`) give the same ending and, put together from the same parts, the same
implementation (`TellSame.implementationOf_eq`).

Main result: `implementation_ends`. The options do not matter, and neither does what the class
map holds for any class but the distinct superclasses (`implementationOf_congr`).
-/

namespace Ontogen.Emission

open Data
open Source (TypeReference)

variable {c : SchemaClass} {classes classes' : ClassMap} {packages packages' : PackageMap}

/-! ## The first thing missing -/

/-- Whether a class has an implementation, or the error that it ends in. Packages are missed
first, that of the class before those of its superclasses, and definitions of distinct
superclasses after that. -/
def implementationStatus (c : SchemaClass) (classes : ClassMap) (packages : PackageMap) :
    Except EmissionError Bool :=
  if c.properties = [] then .ok false
  else
    match (c.uri :: c.superclasses).find? fun u => !packages.contains u with
    | some u => .error (.missingPackage u)
    | none =>
      match (distinctSuperclasses c).find? fun s => !classes.contains s with
      | some s => .error (.unresolvedSuperclass c.uri s)
      | none => .ok true

/-- A class lacks nothing for an implementation that it does not have. -/
theorem implementationStatus_eq_ok_false_iff :
    implementationStatus c classes packages = .ok false ↔ c.properties = [] := by
  unfold implementationStatus
  by_cases hc : c.properties = []
  · simp [hc]
  · rw [if_neg hc]
    refine ⟨fun h => ?_, fun h => absurd h hc⟩
    split at h
    next => cases h
    next =>
      split at h
      next => cases h
      next => cases h

theorem firstOutside_of_find? {ν : Type} {m : OrderedMap Uri ν} {xs : List Uri} {x : Uri}
    (h : xs.find? (fun u => !m.contains u) = some x) : FirstOutside m.keys xs x := by
  obtain ⟨hx, before, after, hsplit, hbefore⟩ := List.find?_eq_some_iff_append.mp h
  refine ⟨?_, before, after, hsplit, ?_⟩
  · rw [← OrderedMap.contains_iff_mem_keys]
    simpa using hx
  · intro y hy
    rw [← OrderedMap.contains_iff_mem_keys]
    simpa using hbefore y hy

theorem mem_keys_of_find?_eq_none {ν : Type} {m : OrderedMap Uri ν} {xs : List Uri}
    (h : xs.find? (fun u => !m.contains u) = none) : ∀ x ∈ xs, x ∈ m.keys := by
  intro x hx
  have hcontains := List.find?_eq_none.mp h x hx
  rw [← OrderedMap.contains_iff_mem_keys]
  simpa using hcontains

/-- Without a package a class with properties has no implementation. -/
theorem implementationOf_eq_error_of_package (hc : c.properties ≠ [])
    (hpackage : c.uri ∉ packages.keys) (options : EmissionOptions) :
    implementationOf options c classes packages = .error (.missingPackage c.uri) := by
  have hempty : ¬ c.properties.isEmpty = true := by rwa [List.isEmpty_iff]
  rw [implementationOf, if_neg hempty, packageOf_eq_error hpackage]
  rfl

/-- The generation of an implementation ends as its status says. -/
theorem map_isSome_implementationOf (options : EmissionOptions) (c : SchemaClass)
    (classes : ClassMap) (packages : PackageMap) :
    (implementationOf options c classes packages).map Option.isSome
      = implementationStatus c classes packages := by
  unfold implementationStatus
  by_cases hc : c.properties = []
  · rw [if_pos hc, implementationOf, hc]
    rfl
  rw [if_neg hc]
  by_cases hpackage : c.uri ∈ packages.keys
  · have hown : packages.contains c.uri = true := OrderedMap.contains_iff_mem_keys.mpr hpackage
    rw [List.find?_cons_of_neg (by simp [hown])]
    split
    next s hs =>
      have hlacks : Lacks c classes packages (.missingPackage s) :=
        .superclassPackage hpackage hc (firstOutside_of_find? hs)
      rw [hlacks.implementationOf_eq_error hpackage]
      rfl
    next hall =>
      have htheirs := mem_keys_of_find?_eq_none hall
      split
      next s hs =>
        have hlacks : Lacks c classes packages (.unresolvedSuperclass c.uri s) :=
          .definition hpackage hc htheirs (firstOutside_of_find? hs)
        rw [hlacks.implementationOf_eq_error hpackage]
        rfl
      next hdefinitions =>
        have hcomplete : IsComplete c classes packages :=
          ⟨hpackage, fun _ => htheirs, fun _ => mem_keys_of_find?_eq_none hdefinitions⟩
        obtain ⟨r⟩ := hcomplete.exists_resolution hc
        rw [r.implementationOf_eq_ok options hc]
        rfl
  · have hown : ¬ packages.contains c.uri = true := mt OrderedMap.contains_iff_mem_keys.mp hpackage
    rw [List.find?_cons_of_pos (by simp [hown]), implementationOf_eq_error_of_package hc hpackage]
    rfl

/-! ## What is looked up in the maps -/

/-- What an implementation takes of the definition of a superclass. -/
def takenOf (d : SchemaClass) : Uri × List SchemaProperty := (d.uri, d.properties)

/-- Maps with the same packages for a class and its superclasses, and the same taken of the
definitions of the distinct superclasses, or no definition in both. -/
structure TellSame (c : SchemaClass) (classes classes' : ClassMap)
    (packages packages' : PackageMap) : Prop where
  package : ∀ u ∈ c.uri :: c.superclasses, packages.find? u = packages'.find? u
  definition : ∀ s ∈ distinctSuperclasses c,
    (classes.find? s).map takenOf = (classes'.find? s).map takenOf

namespace TellSame

/-- Implementations end in the same way. -/
theorem implementationStatus_eq (h : TellSame c classes classes' packages packages') :
    implementationStatus c classes packages = implementationStatus c classes' packages' := by
  have hpackages : ∀ u ∈ c.uri :: c.superclasses,
      (!packages.contains u) = !packages'.contains u := by
    intro u hu
    rw [OrderedMap.contains, OrderedMap.contains, h.package u hu]
  have hclasses : ∀ s ∈ distinctSuperclasses c,
      (!classes.contains s) = !classes'.contains s := by
    intro s hs
    have hsome := congrArg Option.isSome (h.definition s hs)
    rw [Option.isSome_map, Option.isSome_map] at hsome
    rw [OrderedMap.contains, OrderedMap.contains, hsome]
  unfold implementationStatus
  rw [List.find?_congr hpackages, List.find?_congr hclasses]

theorem referenceTo_eq (h : TellSame c classes classes' packages packages') {s : Uri}
    (hs : s ∈ distinctSuperclasses c) :
    referenceTo c packages s = referenceTo c packages' s := by
  have hmem : s ∈ c.uri :: c.superclasses :=
    List.mem_cons_of_mem _ (mem_distinctSuperclasses.mp hs).1
  rw [referenceTo, referenceTo, h.package s hmem]

theorem referenceToSelf_eq (h : TellSame c classes classes' packages packages') :
    referenceToSelf c packages = referenceToSelf c packages' := by
  rw [referenceToSelf, referenceToSelf, h.package c.uri (List.mem_cons_self ..)]

/-- Of the definitions the same is taken. -/
theorem map_takenOf_definitions (h : TellSame c classes classes' packages packages')
    (r : Resolution c classes packages) (r' : Resolution c classes' packages') :
    r.definitions.map takenOf = r'.definitions.map takenOf := by
  have hfound : ((distinctSuperclasses c).map classes.find?).map (Option.map takenOf)
      = ((distinctSuperclasses c).map classes'.find?).map (Option.map takenOf) := by
    rw [List.map_map, List.map_map]
    exact List.map_congr_left h.definition
  rw [r.find?_definitions, r'.find?_definitions, List.map_map, List.map_map] at hfound
  refine List.map_injective_iff.mpr (Option.some_injective _) ?_
  rw [List.map_map, List.map_map]
  exact hfound

end TellSame

/-- The properties of definitions are among what is taken of them. -/
theorem flatMap_properties_eq {ds ds' : List SchemaClass}
    (h : ds.map takenOf = ds'.map takenOf) :
    ds.flatMap SchemaClass.properties = ds'.flatMap SchemaClass.properties := by
  have hproperties : ∀ ds : List SchemaClass,
      ds.flatMap SchemaClass.properties = (ds.map takenOf).flatMap Prod.snd := by
    intro ds
    rw [List.flatMap_map]
    rfl
  rw [hproperties, hproperties, h]

/-- An instance shows what is taken of its definition in its field and its forwarders. -/
theorem holdersWith_congr {refs : List (Uri × TypeReference)} :
    ∀ {taken : List String} {ds ds' : List SchemaClass}, ds.map takenOf = ds'.map takenOf →
      (holdersWith taken refs ds).map (fun h => (h.holderField, h.forwarders))
        = (holdersWith taken refs ds').map fun h => (h.holderField, h.forwarders) := by
  induction refs with
  | nil => exact fun _ => rfl
  | cons ref refs ih =>
    intro taken ds ds' h
    cases ds with
    | nil =>
      cases ds' with
      | nil => rfl
      | cons d' ds' => cases h
    | cons d ds =>
      cases ds' with
      | nil => cases h
      | cons d' ds' =>
        obtain ⟨htaken, hrest⟩ := List.cons.inj h
        obtain ⟨huri, hproperties⟩ := Prod.mk.inj htaken
        rw [holdersWith, holdersWith, List.map_cons, List.map_cons, ih hrest, Holder.holderField,
          Holder.holderField, Holder.forwarders, Holder.forwarders, huri, hproperties]

namespace TellSame

/-- Members show of the definitions only what is taken of them. -/
theorem members_eq (h : TellSame c classes classes' packages packages')
    (r : Resolution c classes packages) (r' : Resolution c classes' packages')
    (layout : Layout) (annotate : Bool) :
    r.members layout annotate = r'.members layout annotate := by
  have hdefinitions := h.map_takenOf_definitions r r'
  cases layout with
  | flatten =>
    have hproperties : r.properties = r'.properties := by
      rw [Resolution.properties, Resolution.properties, flatMap_properties_eq hdefinitions]
    rw [Resolution.members, Resolution.members, Resolution.fields, Resolution.fields,
      Resolution.accessors, Resolution.accessors, hproperties]
  | delegate =>
    have hreferences : namedReferences c packages = namedReferences c packages' := by
      refine List.map_congr_left fun s hs => ?_
      rw [h.referenceTo_eq hs]
    have hholders : r.holders.map (fun h => (h.holderField, h.forwarders))
        = r'.holders.map fun h => (h.holderField, h.forwarders) := by
      rw [Resolution.holders, Resolution.holders, hreferences]
      exact holdersWith_congr hdefinitions
    have hfields : r.holders.map (fun h => Source.Member.holder h.holderField)
        = r'.holders.map fun h => Source.Member.holder h.holderField := by
      have hmap := congrArg (List.map fun e => Source.Member.holder e.1) hholders
      rwa [List.map_map, List.map_map] at hmap
    have hforwarders : r.holders.flatMap Holder.forwarders
        = r'.holders.flatMap Holder.forwarders := by
      have hflat := congrArg (List.flatMap Prod.snd) hholders
      rwa [List.flatMap_map, List.flatMap_map] at hflat
    rw [Resolution.members, Resolution.members, Resolution.fields, Resolution.fields,
      Resolution.accessors, Resolution.accessors, hfields, hforwarders]

/-- Implementations that are there are the same. -/
theorem implementation_eq (h : TellSame c classes classes' packages packages')
    (r : Resolution c classes packages) (r' : Resolution c classes' packages')
    (options : EmissionOptions) : r.implementation options = r'.implementation options := by
  have hown : r.package = r'.package := by
    have hfind := h.package c.uri (List.mem_cons_self ..)
    rw [r.find?_package, r'.find?_package] at hfind
    exact Option.some.inj hfind
  have htheirs : r.superclassPackages = r'.superclassPackages := by
    refine List.map_injective_iff.mpr (Option.some_injective _) ?_
    rw [← r.find?_superclassPackages, ← r'.find?_superclassPackages]
    exact List.map_congr_left fun s hs => h.package s (List.mem_cons_of_mem _ hs)
  have hreferences : (distinctSuperclasses c).map (referenceTo c packages)
      = (distinctSuperclasses c).map (referenceTo c packages') :=
    List.map_congr_left fun s hs => h.referenceTo_eq hs
  rw [Resolution.implementation, Resolution.implementation, Resolution.importedPackages,
    Resolution.importedPackages, hown, htheirs, h.referenceToSelf_eq, hreferences,
    h.members_eq r r']

/-- Maps that tell the same give the same implementation, or none, or the same error. -/
theorem implementationOf_eq (h : TellSame c classes classes' packages packages')
    (options : EmissionOptions) :
    implementationOf options c classes packages = implementationOf options c classes' packages' := by
  -- The status tells errors and absence; where both are there they are made of the same parts.
  have hstatus := h.implementationStatus_eq
  rw [← map_isSome_implementationOf options, ← map_isSome_implementationOf options] at hstatus
  cases hleft : implementationOf options c classes packages with
  | error e =>
    rw [hleft] at hstatus
    exact (map_eq_error_iff.mp hstatus.symm).symm
  | ok t =>
    rw [hleft] at hstatus
    obtain ⟨t', hright, hsome⟩ := map_eq_ok_iff.mp hstatus.symm
    rw [hright]
    cases t with
    | none =>
      rw [Option.isNone_iff_eq_none.mp (Option.isSome_eq_false_iff.mp hsome)]
    | some t =>
      obtain ⟨u, rfl⟩ := Option.isSome_iff_exists.mp hsome
      obtain ⟨-, r, rfl⟩ := implementationOf_eq_ok_some_iff.mp hleft
      obtain ⟨-, r', rfl⟩ := implementationOf_eq_ok_some_iff.mp hright
      rw [h.implementation_eq r r']

end TellSame

theorem implementationOf_congr
    (h : ∀ s ∈ distinctSuperclasses c, classes.find? s = classes'.find? s)
    (options : EmissionOptions) :
    implementationOf options c classes packages
      = implementationOf options c classes' packages := by
  have hsame : TellSame c classes classes' packages packages := by
    refine ⟨fun _ _ => rfl, fun s hs => ?_⟩
    rw [h s hs]
  exact hsame.implementationOf_eq options

/-! ## The ending -/

/-- A class has no implementation exactly when it has no properties, whatever is missing.
Else the generation ends in what its status says: in the error for the first class without a
package, the class itself before its superclasses, or in that for the first distinct
superclass without a definition, or in an implementation. None of the options matters for
this. The class map is not asked for the class itself, also if that is one of its own
superclasses. -/
theorem implementation_ends (options : EmissionOptions) (c : SchemaClass) (classes : ClassMap)
    (packages : PackageMap) :
    (implementationOf options c classes packages = .ok none ↔ c.properties = [])
      ∧ (implementationOf options c classes packages).map Option.isSome
        = implementationStatus c classes packages
      ∧ implementationOf options c (classes.erase c.uri) packages
        = implementationOf options c classes packages := by
  have hstatus := map_isSome_implementationOf options c classes packages
  refine ⟨⟨fun hnone => ?_, fun hc => ?_⟩, hstatus, ?_⟩
  · rw [hnone] at hstatus
    exact implementationStatus_eq_ok_false_iff.mp hstatus.symm
  · rw [implementationOf, hc]
    rfl
  · refine implementationOf_congr (fun s hs => ?_) options
    have hne : s ≠ c.uri := fun h => self_not_mem_distinctSuperclasses c (h ▸ hs)
    exact OrderedMap.find?_erase_of_ne hne

end Ontogen.Emission
