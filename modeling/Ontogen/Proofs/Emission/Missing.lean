import Ontogen.Proofs.Data.OrderedMap
import Ontogen.Proofs.Emission.Conformance

/-!
# What a class lacks

The types of a class are made of what two maps hold for it. `IsComplete` says that all
of this is there, and `Lacks` which look-up is the first one that finds nothing; every
class is complete or lacks something (`isComplete_or_lacks`). A complete class has its
types (`IsComplete.exists_types`). A class without a package has no interface. Whatever
else a class lacks, its interface is there, and its implementation fails with the error
that names what is lacking (`Lacks.implementationOf_eq_error`), in both layouts.
-/

namespace Ontogen.Emission

open Data

variable {c : SchemaClass} {classes : ClassMap} {packages : PackageMap}

/-! ## The first key that is not there -/

/-- The first member of a list that is none of the keys. -/
def FirstOutside (keys xs : List Uri) (x : Uri) : Prop :=
  x ∉ keys ∧ ∃ before after, xs = before ++ x :: after ∧ ∀ y ∈ before, y ∈ keys

theorem FirstOutside.mem {keys xs : List Uri} {x : Uri} (h : FirstOutside keys xs x) :
    x ∈ xs := by
  obtain ⟨-, before, after, rfl, -⟩ := h
  exact List.mem_append_right _ (List.mem_cons_self ..)

theorem forall_mem_or_firstOutside (keys xs : List Uri) :
    (∀ x ∈ xs, x ∈ keys) ∨ ∃ x, FirstOutside keys xs x := by
  induction xs with
  | nil => exact Or.inl fun x hx => by cases hx
  | cons x xs ih =>
    by_cases hx : x ∈ keys
    · rcases ih with hall | ⟨y, hy, before, after, rfl, hbefore⟩
      · exact Or.inl (List.forall_mem_cons.mpr ⟨hx, hall⟩)
      · exact Or.inr ⟨y, hy, x :: before, after, rfl, List.forall_mem_cons.mpr ⟨hx, hbefore⟩⟩
    · exact Or.inr ⟨x, hx, [], xs, rfl, fun y hy => by cases hy⟩

/-- A traversal that finds the keys alone fails at the first other member. -/
theorem FirstOutside.mapM_eq_error {β : Type} {keys xs : List Uri} {x : Uri}
    {f : Uri → Except EmissionError β} {e : EmissionError} (h : FirstOutside keys xs x)
    (hkeys : ∀ y ∈ keys, ∃ b, f y = .ok b) (hx : f x = .error e) : xs.mapM f = .error e := by
  obtain ⟨-, before, after, rfl, hbefore⟩ := h
  obtain ⟨ys, hys⟩ := exists_mapM_eq_ok fun y hy => hkeys y (hbefore y hy)
  exact mapM_eq_error_iff.mpr ⟨before, x, after, ys, rfl, hys, hx⟩

/-! ## Look-ups that find nothing -/

theorem exists_packageOf_eq_ok {uri : Uri} (h : uri ∈ packages.keys) :
    ∃ package, packageOf packages uri = .ok package := by
  obtain ⟨package, hpackage⟩ := OrderedMap.mem_keys_iff.mp h
  exact ⟨package, packageOf_eq_ok_iff.mpr hpackage⟩

theorem packageOf_eq_error {uri : Uri} (h : uri ∉ packages.keys) :
    packageOf packages uri = .error (.missingPackage uri) := by
  rw [packageOf, OrderedMap.find?_eq_none_iff.mpr h]

theorem superclassOf_eq_error {s : Uri} (h : s ∉ classes.keys) :
    superclassOf classes c s = .error (.unresolvedSuperclass c.uri s) := by
  rw [superclassOf, OrderedMap.find?_eq_none_iff.mpr h]

theorem exists_superclassOf_eq_ok {s : Uri} (h : s ∈ classes.keys) :
    ∃ d, superclassOf classes c s = .ok d := by
  obtain ⟨d, hd⟩ := OrderedMap.mem_keys_iff.mp h
  exact ⟨d, superclassOf_eq_ok_iff.mpr hd⟩

/-- No instance can be held for the first superclass without a definition. -/
theorem holdersFrom_eq_error {refs : List (Uri × Source.TypeReference)} {s : Uri}
    (h : FirstOutside classes.keys (refs.map Prod.fst) s) :
    ∀ taken, holdersFrom c classes taken refs = .error (.unresolvedSuperclass c.uri s) := by
  induction refs with
  | nil => cases h.mem
  | cons ref refs ih =>
    obtain ⟨r, type⟩ := ref
    intro taken
    obtain ⟨hs, before, after, hsplit, hbefore⟩ := h
    rw [holdersFrom]
    cases before with
    | nil =>
      obtain ⟨rfl, -⟩ := List.cons.inj hsplit
      rw [superclassOf_eq_error hs]
      rfl
    | cons r' before =>
      obtain ⟨rfl, hrest⟩ := List.cons.inj hsplit
      obtain ⟨hr, hbefore⟩ := List.forall_mem_cons.mp hbefore
      obtain ⟨d, hd⟩ := exists_superclassOf_eq_ok (c := c) hr
      rw [hd]
      show (holdersFrom c classes _ refs >>= _) = _
      rw [ih ⟨hs, before, after, hrest, hbefore⟩]
      rfl

/-- In both layouts members need the definitions of all distinct superclasses. -/
theorem members_eq_error {layout : Layout} {annotate : Bool} {s : Uri}
    (htheirs : ∀ r ∈ c.superclasses, r ∈ packages.keys)
    (h : FirstOutside classes.keys (distinctSuperclasses c) s) :
    members layout annotate c classes packages = .error (.unresolvedSuperclass c.uri s) := by
  cases layout with
  | flatten =>
    have hall : (distinctSuperclasses c).mapM (superclassOf classes c)
        = .error (.unresolvedSuperclass c.uri s) :=
      h.mapM_eq_error (fun _ => exists_superclassOf_eq_ok) (superclassOf_eq_error h.1)
    rw [members, flatMembers, flatProperties, hall]
    rfl
  | delegate =>
    obtain ⟨theirs, htheirs⟩ := OrderedMap.exists_map_find?_eq htheirs
    have hall : holders c classes packages = .error (.unresolvedSuperclass c.uri s) := by
      rw [holders, superclassReferences_eq_ok htheirs]
      refine holdersFrom_eq_error ?_ _
      rwa [map_fst_namedReferences]
    rw [members, delegatingMembers, hall]
    rfl

/-! ## Complete classes -/

/-- All that the types of a class are made of is in the maps: its package and, if it has
properties, the packages of its superclasses and the definitions of the distinct ones. -/
structure IsComplete (c : SchemaClass) (classes : ClassMap) (packages : PackageMap) : Prop where
  package : c.uri ∈ packages.keys
  superclassPackages : c.properties ≠ [] → ∀ s ∈ c.superclasses, s ∈ packages.keys
  definitions : c.properties ≠ [] → ∀ s ∈ distinctSuperclasses c, s ∈ classes.keys

/-- What the maps lack first for a class, with the error that names it. -/
inductive Lacks (c : SchemaClass) (classes : ClassMap) (packages : PackageMap) :
    EmissionError → Prop where
  /-- The class has no package. -/
  | package (hpackage : c.uri ∉ packages.keys) : Lacks c classes packages (.missingPackage c.uri)
  /-- A superclass of a class with properties has no package. -/
  | superclassPackage {s : Uri} (hpackage : c.uri ∈ packages.keys) (hc : c.properties ≠ [])
      (hs : FirstOutside packages.keys c.superclasses s) :
      Lacks c classes packages (.missingPackage s)
  /-- All superclasses of a class with properties have packages, and one of them has no
  definition. -/
  | definition {s : Uri} (hpackage : c.uri ∈ packages.keys) (hc : c.properties ≠ [])
      (htheirs : ∀ r ∈ c.superclasses, r ∈ packages.keys)
      (hs : FirstOutside classes.keys (distinctSuperclasses c) s) :
      Lacks c classes packages (.unresolvedSuperclass c.uri s)

theorem isComplete_or_lacks (c : SchemaClass) (classes : ClassMap) (packages : PackageMap) :
    IsComplete c classes packages ∨ ∃ e, Lacks c classes packages e := by
  by_cases hpackage : c.uri ∈ packages.keys
  · by_cases hc : c.properties = []
    · exact Or.inl ⟨hpackage, fun h => absurd hc h, fun h => absurd hc h⟩
    rcases forall_mem_or_firstOutside packages.keys c.superclasses with htheirs | ⟨s, hs⟩
    · rcases forall_mem_or_firstOutside classes.keys (distinctSuperclasses c) with
        hdefinitions | ⟨s, hs⟩
      · exact Or.inl ⟨hpackage, fun _ => htheirs, fun _ => hdefinitions⟩
      · exact Or.inr ⟨_, .definition hpackage hc htheirs hs⟩
    · exact Or.inr ⟨_, .superclassPackage hpackage hc hs⟩
  · exact Or.inr ⟨_, .package hpackage⟩

theorem Lacks.not_isComplete {e : EmissionError} (h : Lacks c classes packages e) :
    ¬ IsComplete c classes packages := by
  intro hcomplete
  cases h with
  | package hpackage => exact hpackage hcomplete.package
  | superclassPackage _ hc hs => exact hs.1 (hcomplete.superclassPackages hc _ hs.mem)
  | definition _ hc _ hs => exact hs.1 (hcomplete.definitions hc _ hs.mem)

theorem exists_interfaceOf (h : c.uri ∈ packages.keys) : ∃ i, interfaceOf c packages = .ok i := by
  obtain ⟨package, hpackage⟩ := OrderedMap.mem_keys_iff.mp h
  exact ⟨_, interfaceOf_eq_ok_iff.mpr ⟨package, hpackage, rfl⟩⟩

theorem interfaceOf_eq_error (h : c.uri ∉ packages.keys) :
    interfaceOf c packages = .error (.missingPackage c.uri) := by
  rw [interfaceOf, packageOf_eq_error h]
  rfl

/-- A complete class with properties has all that its implementation is made of. -/
theorem IsComplete.exists_resolution (h : IsComplete c classes packages)
    (hc : c.properties ≠ []) : Nonempty (Resolution c classes packages) := by
  obtain ⟨package, hpackage⟩ := OrderedMap.mem_keys_iff.mp h.package
  obtain ⟨theirs, htheirs⟩ := OrderedMap.exists_map_find?_eq (h.superclassPackages hc)
  obtain ⟨ds, hds⟩ := OrderedMap.exists_map_find?_eq (h.definitions hc)
  exact ⟨package, theirs, ds, hpackage, htheirs, hds⟩

/-- The types of a complete class are there. -/
theorem IsComplete.exists_types (h : IsComplete c classes packages) (options : EmissionOptions) :
    (∃ i, interfaceOf c packages = .ok i)
      ∧ ∃ m, implementationOf options c classes packages = .ok m := by
  refine ⟨exists_interfaceOf h.package, ?_⟩
  by_cases hc : c.properties = []
  · refine ⟨none, ?_⟩
    rw [implementationOf, hc]
    rfl
  · obtain ⟨r⟩ := h.exists_resolution hc
    exact ⟨_, r.implementationOf_eq_ok options hc⟩

/-- What a class with a package lacks is missing in its implementation. -/
theorem Lacks.implementationOf_eq_error {e : EmissionError} (h : Lacks c classes packages e)
    (hpackage : c.uri ∈ packages.keys) (options : EmissionOptions) :
    implementationOf options c classes packages = .error e := by
  obtain ⟨package, hfind⟩ := OrderedMap.mem_keys_iff.mp hpackage
  have hempty : c.properties ≠ [] → ¬ c.properties.isEmpty = true := by
    intro hc
    rwa [List.isEmpty_iff]
  cases h with
  | package hnone => exact absurd hpackage hnone
  | superclassPackage _ hc hs =>
    have hall := hs.mapM_eq_error (fun _ => exists_packageOf_eq_ok) (packageOf_eq_error hs.1)
    rw [implementationOf, if_neg (hempty hc), packageOf_eq_ok_iff.mpr hfind, superclassPackages,
      hall]
    rfl
  | definition _ hc htheirs hs =>
    obtain ⟨theirs, hfound⟩ := OrderedMap.exists_map_find?_eq htheirs
    have hpackages : c.superclasses.mapM (packageOf packages) = .ok theirs :=
      (mapM_eq_ok_iff fun _ _ => packageOf_eq_ok_iff).mpr hfound
    rw [implementationOf, if_neg (hempty hc), packageOf_eq_ok_iff.mpr hfind, superclassPackages,
      hpackages, packageOf_eq_ok_iff.mpr hfind, superclassReferences_eq_ok hfound,
      ownReference_eq_ok hfind, members_eq_error htheirs hs]
    rfl

end Ontogen.Emission
