import Ontogen.Proofs.Data.OrderedMap
import Ontogen.Proofs.Emission.Conformance

/-!
# What references denote

An implementation names interfaces in its header and in the types of the instances
that it holds. With a package a reference is plain. A simple name is the interface
of that name in the package of the file, and when there is none there, the only one
in the packages that are imported as a whole.

Whether a reference has a package is decided by the names of the class and its
superclasses alone. So a simple name may be taken by a class of the run that is
neither: one in the package of the file, or one in an imported package when the
interface that is meant is imported as well.

Main result: `denotes_iff`. Every reference denotes the interface it is for, unless
it is a simple name and the interface is not visible in the file. That this happens
is `namesake_takes_reference`.
-/

namespace Ontogen.Emission

open Source (HolderField Member TypeReference typeName)
open Data

variable {c : SchemaClass} {classes : ClassMap} {packages : PackageMap}

/-! ## Runs -/

/-- The classes that types are generated for, with their packages. Superclasses
are among them, and no two have both their package and their simple name in
common. -/
structure Run where
  classes : ClassMap
  packages : PackageMap
  superclass_mem : ∀ d ∈ classes.values, ∀ s ∈ d.superclasses, s ∈ classes.keys
  package_mem : ∀ u ∈ classes.keys, u ∈ packages.keys
  eq_of_names : ∀ u ∈ classes.keys, ∀ v ∈ classes.keys,
    packages.find? u = packages.find? v → typeName u = typeName v → u = v

namespace Run

/-- The interface of a class is in a package under a simple name. -/
def HasInterface (run : Run) (package name : String) (u : Uri) : Prop :=
  u ∈ run.classes.keys ∧ run.packages.find? u = some package ∧ typeName u = name

/-- For a class that is known by its own URI this is the interface that is
generated. -/
theorem hasInterface_iff {run : Run} {d : SchemaClass} {package name : String}
    (hd : run.classes.find? d.uri = some d) :
    run.HasInterface package name d.uri
      ↔ ∃ i, interfaceOf d run.packages = .ok i
        ∧ i.package = package ∧ i.header = .interface name := by
  constructor
  · rintro ⟨-, hpackage, hname⟩
    refine ⟨_, interfaceOf_eq_ok_iff.mpr ⟨package, hpackage, rfl⟩, rfl, ?_⟩
    exact congrArg Header.interface hname
  · rintro ⟨i, hi, hpackage, hname⟩
    obtain ⟨package', hpackage', rfl⟩ := interfaceOf_eq_ok_iff.mp hi
    obtain rfl : package' = package := hpackage
    exact ⟨OrderedMap.mem_keys_iff.mpr ⟨d, hd⟩, hpackage', Header.interface.inj hname⟩

theorem hasInterface_unique {run : Run} {package name : String} {u v : Uri}
    (hu : run.HasInterface package name u) (hv : run.HasInterface package name v) : u = v := by
  obtain ⟨hu, hup, hun⟩ := hu
  obtain ⟨hv, hvp, hvn⟩ := hv
  exact run.eq_of_names u hu v hv (hup.trans hvp.symm) (hun.trans hvn.symm)

end Run

/-! ## Scopes -/

/-- A type imports all types of a package. -/
def TypeSource.ImportsPackage (t : TypeSource) (package : String) : Prop :=
  wildcard package ∈ t.unit.imports

/-- Simple names may be those of types in this package: it is that of the type
itself, or imported. -/
def TypeSource.Sees (t : TypeSource) (package : String) : Prop :=
  package = t.package ∨ t.ImportsPackage package

/-- What a reference in a type denotes. A type in the package of the file hides
those with the same name that are imported, and of several that are imported none
is denoted. -/
def Run.Denotes (run : Run) (t : TypeSource) (r : TypeReference) (u : Uri) : Prop :=
  match r.package with
  | some package => run.HasInterface package r.name u
  | none =>
    run.HasInterface t.package r.name u
      ∨ (∀ v, ¬ run.HasInterface t.package r.name v)
        ∧ (∃ package, t.ImportsPackage package ∧ run.HasInterface package r.name u)
        ∧ ∀ package v, t.ImportsPackage package → run.HasInterface package r.name v → v = u

/-- An interface can be named simply: it is in the package of the type, or no other
one with its name is in a package that the type sees. -/
def Run.Visible (run : Run) (t : TypeSource) (u : Uri) : Prop :=
  run.HasInterface t.package (typeName u) u
    ∨ ∀ package v, t.Sees package → run.HasInterface package (typeName u) v → v = u

/-- A reference denotes one interface at most. -/
theorem Run.denotes_unique {run : Run} {t : TypeSource} {r : TypeReference} {u v : Uri}
    (hu : run.Denotes t r u) (hv : run.Denotes t r v) : u = v := by
  rw [Run.Denotes] at hu hv
  cases hpackage : r.package with
  | some package =>
    rw [hpackage] at hu hv
    exact Run.hasInterface_unique hu hv
  | none =>
    rw [hpackage] at hu hv
    rcases hu with hu | ⟨hnone, ⟨package, himport, hu⟩, -⟩
    · rcases hv with hv | ⟨hnone, -, -⟩
      · exact Run.hasInterface_unique hu hv
      · exact absurd hu (hnone u)
    · rcases hv with hv | ⟨-, -, honly⟩
      · exact absurd hv (hnone v)
      · exact honly package u himport hu

/-- A simple name denotes an interface in a package that is seen exactly when the
interface is visible. -/
theorem Run.denotes_simple_iff {run : Run} {t : TypeSource} {package : String} {u : Uri}
    (hu : run.HasInterface package (typeName u) u) (hsees : t.Sees package) :
    run.Denotes t ⟨none, typeName u⟩ u ↔ run.Visible t u := by
  constructor
  · rintro (hown | ⟨hnone, -, honly⟩)
    · exact .inl hown
    · refine .inr ?_
      rintro package' v (rfl | himport) hv
      · exact absurd hv (hnone v)
      · exact honly package' v himport hv
  · intro hvisible
    by_cases hown : run.HasInterface t.package (typeName u) u
    · exact .inl hown
    · have hothers := hvisible.resolve_left hown
      refine .inr ⟨?_, ?_, ?_⟩
      · intro v hv
        obtain rfl := hothers _ v (.inl rfl) hv
        exact hown hv
      · rcases hsees with rfl | himport
        · exact absurd hu hown
        · exact ⟨package, himport, hu⟩
      · intro package' v himport hv
        exact hothers package' v (.inr himport) hv

/-! ## When references name the package -/

/-- In a list without repetitions an image is there twice when another member has
it too. -/
theorem one_lt_count_map_iff {f : Uri → String} {us : List Uri} {u : Uri} (h : us.Nodup)
    (hu : u ∈ us) : 1 < (us.map f).count (f u) ↔ ∃ v ∈ us, v ≠ u ∧ f v = f u := by
  have hcount : (us.map f).count (f u) = ((us.erase u).map f).count (f u) + 1 := by
    rw [((List.perm_cons_erase hu).map f).count_eq, List.map_cons, List.count_cons_self]
  rw [hcount, Nat.lt_add_left_iff_pos, List.count_pos_iff, List.mem_map]
  constructor
  · rintro ⟨v, hv, hname⟩
    rw [h.mem_erase_iff] at hv
    exact ⟨v, hv.2, hv.1, hname⟩
  · rintro ⟨v, hv, hne, hname⟩
    exact ⟨v, h.mem_erase_iff.mpr ⟨hne, hv⟩, hname⟩

/-- Of a class and its superclasses no other one has the simple name. -/
def NamedAlone (c : SchemaClass) (u : Uri) : Prop :=
  ∀ v ∈ c.uri :: distinctSuperclasses c, typeName v = typeName u → v = u

/-- A superclass is ambiguous when it is not alone with its name. -/
theorem isAmbiguous_iff {s : Uri} (hs : s ∈ distinctSuperclasses c) :
    isAmbiguous c s = true ↔ ¬ NamedAlone c s := by
  have hself : c.uri ≠ s := fun h => self_not_mem_distinctSuperclasses c (h ▸ hs)
  rw [isAmbiguous, Bool.or_eq_true, decide_eq_true_iff, decide_eq_true_iff,
    one_lt_count_map_iff (distinctSuperclasses_nodup c) hs]
  constructor
  · rintro (hname | ⟨v, hv, hne, hname⟩) halone
    · exact hself (halone c.uri (List.mem_cons_self ..) hname.symm)
    · exact hne (halone v (List.mem_cons_of_mem _ hv) hname)
  · intro hnot
    rw [NamedAlone] at hnot
    push Not at hnot
    obtain ⟨v, hv, hname, hne⟩ := hnot
    rcases List.mem_cons.mp hv with rfl | hv
    · exact .inl hname.symm
    · exact .inr ⟨v, hv, hne, hname⟩

/-- The class itself shares its name when a superclass has it. -/
theorem typeName_mem_superclasses_iff :
    typeName c.uri ∈ (distinctSuperclasses c).map typeName ↔ ¬ NamedAlone c c.uri := by
  rw [List.mem_map]
  constructor
  · rintro ⟨s, hs, hname⟩ halone
    obtain rfl := halone s (List.mem_cons_of_mem _ hs) hname
    exact self_not_mem_distinctSuperclasses c hs
  · intro hnot
    rw [NamedAlone] at hnot
    push Not at hnot
    obtain ⟨v, hv, hname, hne⟩ := hnot
    exact ⟨v, (List.mem_cons.mp hv).resolve_left hne, hname⟩

/-- A reference is to a class in a package: by the simple name alone where no other
class around has it, else with the package. -/
def RefersTo (c : SchemaClass) (package : String) (u : Uri) (ref : TypeReference) : Prop :=
  (NamedAlone c u ∧ ref = ⟨none, typeName u⟩)
    ∨ ¬ NamedAlone c u ∧ ref = ⟨some package, typeName u⟩

theorem refersTo_referenceTo {s : Uri} {package : String} (hs : s ∈ distinctSuperclasses c)
    (h : packages.find? s = some package) : RefersTo c package s (referenceTo c packages s) := by
  rw [referenceTo, h]
  split
  next hambiguous => exact .inr ⟨(isAmbiguous_iff hs).mp hambiguous, rfl⟩
  next hambiguous => exact .inl ⟨not_not.mp (mt (isAmbiguous_iff hs).mpr hambiguous), rfl⟩

theorem refersTo_referenceToSelf {package : String}
    (h : packages.find? c.uri = some package) :
    RefersTo c package c.uri (referenceToSelf c packages) := by
  rw [referenceToSelf, h]
  split
  next hmem => exact .inr ⟨typeName_mem_superclasses_iff.mp hmem, rfl⟩
  next hmem => exact .inl ⟨not_not.mp (mt typeName_mem_superclasses_iff.mpr hmem), rfl⟩

/-- A reference to the interface of a class denotes it if it names the package, and
else exactly when the interface is visible. -/
theorem Run.denotes_iff_of_refersTo {run : Run} {t : TypeSource} {package : String}
    {ref : TypeReference} {u : Uri} (href : RefersTo c package u ref)
    (hu : run.HasInterface package (typeName u) u) (hsees : t.Sees package) :
    ref.name = typeName u ∧ (ref.package = none ↔ NamedAlone c u)
      ∧ (run.Denotes t ref u ↔ ref.package ≠ none ∨ run.Visible t u) := by
  rcases href with ⟨halone, rfl⟩ | ⟨halone, rfl⟩
  · refine ⟨rfl, iff_of_true rfl halone, ?_⟩
    rw [Run.denotes_simple_iff hu hsees]
    exact (or_iff_right fun h => h rfl).symm
  · have hsome : (some package : Option String) ≠ none := Option.some_ne_none package
    exact ⟨rfl, iff_of_false hsome halone, iff_of_true hu (.inl hsome)⟩

/-! ## What an implementation sees -/

/-- The types of the instances that a type holds. -/
def TypeSource.holderTypes (t : TypeSource) : List TypeReference :=
  t.members.filterMap Member.holderType?

/-- The fields for the instances that a type holds. -/
def TypeSource.holderFields (t : TypeSource) : List HolderField :=
  t.members.filterMap Member.holder?

theorem TypeSource.map_type_holderFields (t : TypeSource) :
    t.holderFields.map HolderField.type = t.holderTypes := by
  unfold TypeSource.holderFields TypeSource.holderTypes
  rw [List.map_filterMap]
  congr 1
  funext m
  cases m <;> rfl

namespace Resolution

/-- An implementation sees the package of its interface, also from a package of
its own. -/
theorem sees_package (r : Resolution c classes packages) (options : EmissionOptions) :
    (r.implementation options).Sees r.package := by
  cases hseparate : options.separate with
  | false =>
    refine .inl ?_
    show r.package = implementationPackage options r.package
    rw [implementationPackage, hseparate]
    rfl
  | true =>
    refine .inr (List.mem_map.mpr ⟨.package r.package, ?_, rfl⟩)
    show _ ∈ implementationImports options r.package r.importedPackages
    rw [implementationImports, hseparate]
    exact List.mem_append_left _ (List.mem_append_left _ (List.mem_cons_self ..))

/-- An implementation sees the packages of the superclasses. -/
theorem sees_superclassPackage {r : Resolution c classes packages} {package : String}
    (hpackage : package ∈ r.superclassPackages) (options : EmissionOptions) :
    (r.implementation options).Sees package := by
  by_cases hown : package = r.package
  · rw [hown]
    exact r.sees_package options
  · refine .inr (List.mem_map.mpr ⟨.package package, ?_, rfl⟩)
    refine List.mem_append_right _ (List.mem_map_of_mem ?_)
    rw [importedPackages, List.mem_filter, mem_ascending]
    exact ⟨hpackage, by simpa using hown⟩

/-- Only the delegating layout holds instances. -/
theorem holderFields_implementation (r : Resolution c classes packages)
    (options : EmissionOptions) :
    (r.implementation options).holderFields = match options.layout with
      | .flatten => []
      | .delegate => r.holders.map Holder.holderField := by
  have hproperties (ps : List SchemaProperty) :
      (ps.map fun p => Member.property (fieldOf options.annotate p)).filterMap
        Member.holder? = [] := filterMap_map_eq_nil fun _ _ => rfl
  rw [TypeSource.holderFields, r.filterMap_members_eq_fields options fun _ => rfl]
  cases options.layout with
  | flatten => exact hproperties r.properties
  | delegate =>
    rw [fields, List.filterMap_append, hproperties, List.nil_append]
    exact filterMap_map_eq_map fun _ _ => rfl

/-- It holds one for every distinct superclass. -/
theorem holderTypes_implementation (r : Resolution c classes packages)
    (options : EmissionOptions) :
    (r.implementation options).holderTypes = match options.layout with
      | .flatten => []
      | .delegate => (distinctSuperclasses c).map (referenceTo c packages) := by
  rw [← TypeSource.map_type_holderFields, r.holderFields_implementation]
  cases options.layout with
  | flatten => rfl
  | delegate =>
    show (r.holders.map Holder.holderField).map HolderField.type = _
    rw [← r.map_type_holders, List.map_map]
    rfl

end Resolution

/-! ## References in an implementation -/

/-- The header of an implementation refers to the interfaces of its class and of the
distinct superclasses, and the instances that it holds have the types of the latter.
A reference is a simple name exactly when no other of these classes has the name.
With a package it denotes the interface that it is for. As a simple name it does so
exactly when no class of the run takes the name: the interface is in the package of
the file, or no other one with its name is there or in an imported package. -/
theorem denotes_iff (run : Run) {options : EmissionOptions} {t : TypeSource}
    (hc : run.classes.find? c.uri = some c)
    (h : implementationOf options c run.classes run.packages = .ok (some t)) :
    ∃ own others, t.header = .implementation (typeName c.uri) (own :: others)
      ∧ (t.holderTypes = match options.layout with
          | .flatten => []
          | .delegate => others)
      ∧ List.Forall₂
          (fun u ref => ref.name = typeName u ∧ (ref.package = none ↔ NamedAlone c u)
            ∧ (run.Denotes t ref u ↔ ref.package ≠ none ∨ run.Visible t u))
          (c.uri :: distinctSuperclasses c) (own :: others) := by
  obtain ⟨-, r, rfl⟩ := implementationOf_eq_ok_some_iff.mp h
  have hkey : ∀ s ∈ distinctSuperclasses c, s ∈ run.classes.keys := fun s hs =>
    run.superclass_mem c (OrderedMap.mem_values_of_find? hc) s
      (mem_distinctSuperclasses.mp hs).1
  refine ⟨_, _, rfl, r.holderTypes_implementation options, ?_⟩
  rw [List.forall₂_cons, List.forall₂_map_right_iff, List.forall₂_same]
  constructor
  · refine Run.denotes_iff_of_refersTo (refersTo_referenceToSelf r.find?_package) ?_ ?_
    · exact ⟨OrderedMap.mem_keys_iff.mpr ⟨c, hc⟩, r.find?_package, rfl⟩
    · exact r.sees_package options
  · intro s hs
    obtain ⟨package, hmem, hpackage⟩ := r.exists_package hs
    refine Run.denotes_iff_of_refersTo (refersTo_referenceTo hs hpackage) ?_ ?_
    · exact ⟨hkey s hs, hpackage, rfl⟩
    · exact Resolution.sees_superclassPackage hmem options

/-- The employees and the persons as a run of their own. -/
def staffRun : Run where
  classes := staff
  packages := staffPackages
  superclass_mem := by decide
  package_mem := by decide
  eq_of_names := by decide +kernel

theorem employee_denotes_iff :
    staffRun.classes.find? employee.uri = some employee
      ∧ ∃ t own others,
        implementationOf { layout := .delegate } employee staffRun.classes staffRun.packages
          = .ok (some t)
        ∧ t.unit.imports = ["people.*"]
        ∧ t.header = .implementation (typeName employee.uri) (own :: others)
        ∧ t.holderTypes = others
        ∧ List.Forall₂
            (fun u ref => ref.name = typeName u
              ∧ (ref.package = none ↔ NamedAlone employee u)
              ∧ (staffRun.Denotes t ref u ↔ ref.package ≠ none ∨ staffRun.Visible t u))
            [employee.uri, person.uri] (own :: others) := by
  have hc : staffRun.classes.find? employee.uri = some employee := by decide
  have h := employeeResolution.implementationOf_eq_ok { layout := .delegate } (by decide)
  obtain ⟨own, others, hheader, hholders, hall⟩ := denotes_iff staffRun hc h
  have hdistinct : distinctSuperclasses employee = [person.uri] := by decide
  rw [hdistinct] at hall
  exact ⟨hc, _, own, others, h, by decide +kernel, hheader, hholders, hall⟩

/-- A class that has nothing to do with the employees but their package, and the
simple name of their superclass. -/
def namesake : SchemaClass where
  uri := "http://works/Person"

/-- The employees and the persons with the namesake of these. -/
def crowdedRun : Run where
  classes := staff.insert namesake.uri namesake
  packages := staffPackages.insert namesake.uri "works"
  superclass_mem := by decide
  package_mem := by decide
  eq_of_names := by decide +kernel

/-- What an implementation of the employees is made of in the crowd. -/
def crowdedResolution : Resolution employee crowdedRun.classes crowdedRun.packages where
  package := "works"
  superclassPackages := ["people", "works", "people"]
  definitions := [person]
  find?_package := by decide
  find?_superclassPackages := by decide
  find?_definitions := by decide

/-- A class of the run takes the simple name of a superclass: the reference to the
superclass denotes its namesake in the package of the file. -/
theorem namesake_takes_reference :
    crowdedRun.classes.find? employee.uri = some employee
      ∧ distinctSuperclasses employee = [person.uri]
      ∧ ∃ t, implementationOf { layout := .delegate } employee crowdedRun.classes
            crowdedRun.packages = .ok (some t)
        ∧ t.header = .implementation "Employee" [⟨none, "Employee"⟩, ⟨none, "Person"⟩]
        ∧ t.holderTypes = [⟨none, "Person"⟩]
        ∧ crowdedRun.Denotes t ⟨none, "Person"⟩ namesake.uri
        ∧ ¬ crowdedRun.Denotes t ⟨none, "Person"⟩ person.uri := by
  have h := crowdedResolution.implementationOf_eq_ok { layout := .delegate } (by decide)
  have hnamesake : crowdedRun.Denotes
      (crowdedResolution.implementation { layout := .delegate })
      ⟨none, "Person"⟩ namesake.uri :=
    .inl ⟨by decide, by decide, by decide⟩
  refine ⟨by decide, by decide, _, h, ?_, ?_, hnamesake, ?_⟩
  · decide +kernel
  · decide +kernel
  · intro hperson
    exact absurd (Run.denotes_unique hperson hnamesake) (by decide)

end Ontogen.Emission
