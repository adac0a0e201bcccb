import Ontogen.Emission.TypeSource
import Ontogen.Proofs.Data.Traversal
import Ontogen.Proofs.Emission.FreshNames

/-!
# What an implementation is made of

An implementation takes three things from the maps: the package of its class, the
packages of the superclasses, and the definitions of these. A `Resolution` holds
them. All that is made of them is a total function of a resolution: the
references, the instances that are held, the members, and the implementation as a
whole.

Main result: `implementationOf_eq_ok_some_iff`. A class has an implementation
exactly when it has properties and a resolution, and the implementation is the
one that `Resolution.implementation` puts together.
-/

namespace Ontogen.Emission

open Source (Accessors Member TypeReference typeName instanceName)
open Data

variable {c : SchemaClass} {classes : ClassMap} {packages : PackageMap}

/-! ## Direct superclasses -/

theorem mem_distinctSuperclasses {s : Uri} :
    s ∈ distinctSuperclasses c ↔ s ∈ c.superclasses ∧ s ≠ c.uri := by
  rw [distinctSuperclasses, List.mem_filter, List.mem_eraseDups]
  simp

theorem distinctSuperclasses_nodup (c : SchemaClass) : (distinctSuperclasses c).Nodup :=
  (nodup_eraseDups c.superclasses).filter _

/-! ## References -/

/-- The reference to a superclass whose package is known. -/
def referenceTo (c : SchemaClass) (packages : PackageMap) (superclass : Uri) :
    TypeReference where
  package := if isAmbiguous c superclass then packages.find? superclass else none
  name := typeName superclass

/-- The reference to the interface of a class whose package is known. -/
def referenceToSelf (c : SchemaClass) (packages : PackageMap) : TypeReference where
  package := if typeName c.uri ∈ (distinctSuperclasses c).map typeName
    then packages.find? c.uri else none
  name := typeName c.uri

theorem superclassReference_eq_ok {s : Uri} {package : String}
    (h : packages.find? s = some package) :
    superclassReference c packages s = .ok (referenceTo c packages s) := by
  rw [superclassReference, referenceTo, packageOf_eq_ok_iff.mpr h, h]
  split <;> rfl

theorem ownReference_eq_ok {package : String} (h : packages.find? c.uri = some package) :
    ownReference c packages = .ok (referenceToSelf c packages) := by
  rw [ownReference, referenceToSelf, packageOf_eq_ok_iff.mpr h, h]
  split <;> rfl

/-- The distinct superclasses with the references to them. -/
def namedReferences (c : SchemaClass) (packages : PackageMap) : List (Uri × TypeReference) :=
  (distinctSuperclasses c).map fun s => (s, referenceTo c packages s)

theorem map_fst_namedReferences (c : SchemaClass) (packages : PackageMap) :
    (namedReferences c packages).map Prod.fst = distinctSuperclasses c := by
  rw [namedReferences, List.map_map]
  exact List.map_id _

theorem map_snd_namedReferences (c : SchemaClass) (packages : PackageMap) :
    (namedReferences c packages).map Prod.snd
      = (distinctSuperclasses c).map (referenceTo c packages) := by
  rw [namedReferences, List.map_map]
  rfl

/-- With a package for every superclass there is a reference to each. -/
theorem superclassReferences_eq_ok {theirs : List String}
    (h : c.superclasses.map packages.find? = theirs.map some) :
    superclassReferences c packages = .ok (namedReferences c packages) := by
  rw [superclassReferences]
  refine mapM_eq_ok_map ?_
  intro s hs
  obtain ⟨package, -, hpackage⟩ := exists_mem_of_map_eq h (mem_distinctSuperclasses.mp hs).1
  rw [superclassReference_eq_ok hpackage]
  rfl

/-- With a package for the class and for every superclass, these are sorted and the own one is
left out. -/
theorem superclassPackages_eq_ok_of_find? {own : String} {theirs : List String}
    (hown : packages.find? c.uri = some own)
    (h : c.superclasses.map packages.find? = theirs.map some) :
    superclassPackages c packages
      = .ok ((ascending theirs).filter fun p => !decide (p = own)) := by
  have htheirs : c.superclasses.mapM (packageOf packages) = .ok theirs :=
    (mapM_eq_ok_iff fun _ _ => packageOf_eq_ok_iff).mpr h
  rw [superclassPackages, htheirs, packageOf_eq_ok_iff.mpr hown]
  rfl

/-! ## Held instances -/

/-- The instances that are held for superclasses with these definitions. -/
def holdersWith : List String → List (Uri × TypeReference) → List SchemaClass → List Holder
  | taken, (s, type) :: rest, d :: ds =>
    ⟨freshName taken (instanceName s), type, d⟩
      :: holdersWith (freshName taken (instanceName s) :: taken) rest ds
  | _, _, _ => []

/-- Instances can be held exactly when every superclass has a definition. -/
theorem holdersFrom_eq_ok_iff {refs : List (Uri × TypeReference)} :
    ∀ {taken : List String} {hs : List Holder}, holdersFrom c classes taken refs = .ok hs
      ↔ ∃ ds, (refs.map Prod.fst).map classes.find? = ds.map some
        ∧ hs = holdersWith taken refs ds := by
  induction refs with
  | nil =>
    intro taken hs
    rw [holdersFrom]
    constructor
    · intro h
      obtain rfl := Except.ok.inj h
      exact ⟨[], rfl, rfl⟩
    · rintro ⟨ds, -, rfl⟩
      rfl
  | cons ref refs ih =>
    obtain ⟨s, type⟩ := ref
    intro taken hs
    rw [holdersFrom, bind_eq_ok_iff]
    constructor
    · rintro ⟨d, hd, h⟩
      obtain ⟨others, hothers, h⟩ := bind_eq_ok_iff.mp h
      obtain ⟨ds, hds, rfl⟩ := ih.mp hothers
      obtain rfl := Except.ok.inj h
      refine ⟨d :: ds, ?_, rfl⟩
      rw [List.map_cons, List.map_cons, List.map_cons, hds, superclassOf_eq_ok_iff.mp hd]
    · rintro ⟨ds, hds, rfl⟩
      cases ds with
      | nil => cases hds
      | cons d ds =>
        rw [List.map_cons, List.map_cons, List.map_cons, List.cons.injEq] at hds
        refine ⟨d, superclassOf_eq_ok_iff.mpr hds.1, ?_⟩
        rw [bind_eq_ok_iff]
        exact ⟨_, ih.mpr ⟨ds, hds.2, rfl⟩, rfl⟩

theorem map_field_holdersWith {refs : List (Uri × TypeReference)} :
    ∀ {taken : List String} {ds : List SchemaClass}, refs.length = ds.length →
      (holdersWith taken refs ds).map Holder.field
        = freshNames taken ((refs.map Prod.fst).map instanceName) := by
  induction refs with
  | nil => intro taken ds _; rfl
  | cons ref refs ih =>
    intro taken ds hlen
    cases ds with
    | nil => cases hlen
    | cons d ds =>
      rw [holdersWith, List.map_cons, List.map_cons, List.map_cons, freshNames,
        ih (Nat.succ.inj hlen)]

theorem map_type_holdersWith {refs : List (Uri × TypeReference)} :
    ∀ {taken : List String} {ds : List SchemaClass}, refs.length = ds.length →
      (holdersWith taken refs ds).map Holder.type = refs.map Prod.snd := by
  induction refs with
  | nil => intro taken ds _; rfl
  | cons ref refs ih =>
    intro taken ds hlen
    cases ds with
    | nil => cases hlen
    | cons d ds => rw [holdersWith, List.map_cons, List.map_cons, ih (Nat.succ.inj hlen)]

theorem map_definition_holdersWith {refs : List (Uri × TypeReference)} :
    ∀ {taken : List String} {ds : List SchemaClass}, refs.length = ds.length →
      (holdersWith taken refs ds).map Holder.definition = ds := by
  induction refs with
  | nil =>
    intro taken ds hlen
    cases ds with
    | nil => rfl
    | cons d ds => cases hlen
  | cons ref refs ih =>
    intro taken ds hlen
    cases ds with
    | nil => cases hlen
    | cons d ds => rw [holdersWith, List.map_cons, ih (Nat.succ.inj hlen)]

/-! ## Resolutions -/

/-- What the maps hold for a class: its package, the packages of its superclasses,
and the definitions of its distinct superclasses. -/
structure Resolution (c : SchemaClass) (classes : ClassMap) (packages : PackageMap) where
  package : String
  superclassPackages : List String
  definitions : List SchemaClass
  find?_package : packages.find? c.uri = some package
  find?_superclassPackages :
    c.superclasses.map packages.find? = superclassPackages.map some
  find?_definitions : (distinctSuperclasses c).map classes.find? = definitions.map some

namespace Resolution

/-- The packages that are imported for the superclasses. -/
def importedPackages (r : Resolution c classes packages) : List String :=
  (ascending r.superclassPackages).filter fun p => !decide (p = r.package)

/-- The own properties and those of the distinct superclasses. -/
def properties (r : Resolution c classes packages) : List SchemaProperty :=
  c.properties ++ r.definitions.flatMap SchemaClass.properties

/-- The instances that the delegating layout holds. -/
def holders (r : Resolution c classes packages) : List Holder :=
  holdersWith (c.properties.map SchemaProperty.name) (namedReferences c packages) r.definitions

/-- The fields in a layout. -/
def fields (r : Resolution c classes packages) (layout : Layout) (annotate : Bool) :
    List Member :=
  match layout with
  | .flatten => r.properties.map fun p => .property (fieldOf annotate p)
  | .delegate =>
    c.properties.map (fun p => .property (fieldOf annotate p))
      ++ r.holders.map (fun h => .holder h.holderField)

/-- The accessors in a layout. -/
def accessors (r : Resolution c classes packages) (layout : Layout) : List Accessors :=
  match layout with
  | .flatten => r.properties.map (accessorsOf .own)
  | .delegate => c.properties.map (accessorsOf .own) ++ r.holders.flatMap Holder.forwarders

/-- The members in a layout: fields, then accessors. -/
def members (r : Resolution c classes packages) (layout : Layout) (annotate : Bool) :
    List Member :=
  r.fields layout annotate ++ (r.accessors layout).map .accessors

/-- The implementation of the class. -/
def implementation (r : Resolution c classes packages) (options : EmissionOptions) :
    TypeSource where
  package := implementationPackage options r.package
  header := .implementation (typeName c.uri)
    (referenceToSelf c packages :: (distinctSuperclasses c).map (referenceTo c packages))
  comment := classComment c
  imports := implementationImports options r.package r.importedPackages
  members := r.members options.layout options.annotate

theorem length_namedReferences (r : Resolution c classes packages) :
    (namedReferences c packages).length = r.definitions.length := by
  have h := congrArg List.length r.find?_definitions
  rwa [List.length_map, List.length_map, ← map_fst_namedReferences c packages,
    List.length_map] at h

/-- Every distinct superclass has one of the packages. -/
theorem exists_package (r : Resolution c classes packages) {s : Uri}
    (hs : s ∈ distinctSuperclasses c) :
    ∃ package ∈ r.superclassPackages, packages.find? s = some package :=
  exists_mem_of_map_eq r.find?_superclassPackages (mem_distinctSuperclasses.mp hs).1

/-- The fields of the instances are named after the superclasses, and no name is
one of an own property or an earlier instance. -/
theorem map_field_holders (r : Resolution c classes packages) :
    r.holders.map Holder.field
      = freshNames (c.properties.map SchemaProperty.name)
          ((distinctSuperclasses c).map instanceName) := by
  rw [holders, map_field_holdersWith r.length_namedReferences, map_fst_namedReferences]

theorem map_type_holders (r : Resolution c classes packages) :
    r.holders.map Holder.type = (distinctSuperclasses c).map (referenceTo c packages) := by
  rw [holders, map_type_holdersWith r.length_namedReferences, map_snd_namedReferences]

theorem map_definition_holders (r : Resolution c classes packages) :
    r.holders.map Holder.definition = r.definitions := by
  rw [holders, map_definition_holdersWith r.length_namedReferences]

/-- What only fields have, the members of the implementation have from its fields. -/
theorem filterMap_members_eq_fields {γ : Type} (r : Resolution c classes packages)
    (options : EmissionOptions) {g : Member → Option γ} (h : ∀ a, g (.accessors a) = none) :
    (r.implementation options).members.filterMap g
      = (r.fields options.layout options.annotate).filterMap g := by
  have haccessors : ((r.accessors options.layout).map Member.accessors).filterMap g = [] :=
    filterMap_map_eq_nil fun a _ => h a
  show (r.fields _ _ ++ (r.accessors _).map Member.accessors).filterMap g = _
  rw [List.filterMap_append, haccessors, List.append_nil]

/-- What only accessors have, the members of the implementation have from its accessors. -/
theorem filterMap_members_eq_accessors {γ : Type} (r : Resolution c classes packages)
    (options : EmissionOptions) {g : Member → Option γ}
    (hproperty : ∀ f, g (.property f) = none) (hholder : ∀ f, g (.holder f) = none) :
    (r.implementation options).members.filterMap g
      = ((r.accessors options.layout).map Member.accessors).filterMap g := by
  have hfields : (r.fields options.layout options.annotate).filterMap g = [] := by
    have hproperties (ps : List SchemaProperty) :
        (ps.map fun p => Member.property (fieldOf options.annotate p)).filterMap g = [] :=
      filterMap_map_eq_nil fun p _ => hproperty _
    cases options.layout with
    | flatten => exact hproperties r.properties
    | delegate =>
      rw [fields, List.filterMap_append, hproperties,
        filterMap_map_eq_nil fun h _ => hholder _]
      rfl
  show (r.fields _ _ ++ (r.accessors _).map Member.accessors).filterMap g = _
  rw [List.filterMap_append, hfields, List.nil_append]

/-! ## What is computed is what the resolution gives -/

theorem superclassPackages_eq_ok (r : Resolution c classes packages) :
    Emission.superclassPackages c packages = .ok r.importedPackages :=
  superclassPackages_eq_ok_of_find? r.find?_package r.find?_superclassPackages

theorem flatProperties_eq_ok (r : Resolution c classes packages) :
    flatProperties c classes = .ok r.properties := by
  have hdefinitions : (distinctSuperclasses c).mapM (superclassOf classes c)
      = .ok r.definitions :=
    (mapM_eq_ok_iff fun _ _ => superclassOf_eq_ok_iff).mpr r.find?_definitions
  rw [flatProperties, hdefinitions]
  rfl

theorem holders_eq_ok (r : Resolution c classes packages) :
    Emission.holders c classes packages = .ok r.holders := by
  rw [Emission.holders, superclassReferences_eq_ok r.find?_superclassPackages]
  refine holdersFrom_eq_ok_iff.mpr ⟨r.definitions, ?_, rfl⟩
  rw [map_fst_namedReferences, r.find?_definitions]

theorem members_eq_ok (r : Resolution c classes packages) (layout : Layout)
    (annotate : Bool) :
    Emission.members layout annotate c classes packages
      = .ok (r.members layout annotate) := by
  cases layout with
  | flatten =>
    rw [Emission.members, flatMembers, r.flatProperties_eq_ok, members, fields, accessors,
      List.map_map]
    rfl
  | delegate =>
    rw [Emission.members, delegatingMembers, r.holders_eq_ok, members, fields, accessors,
      List.map_append, List.map_map, List.map_flatMap, ← List.append_assoc]
    rfl

theorem implementationOf_eq_ok (r : Resolution c classes packages)
    (options : EmissionOptions) (hc : c.properties ≠ []) :
    implementationOf options c classes packages = .ok (some (r.implementation options)) := by
  have hempty : ¬ c.properties.isEmpty = true := by
    rw [List.isEmpty_iff]
    exact hc
  rw [implementationOf, if_neg hempty, packageOf_eq_ok_iff.mpr r.find?_package,
    r.superclassPackages_eq_ok, superclassReferences_eq_ok r.find?_superclassPackages,
    ownReference_eq_ok r.find?_package, r.members_eq_ok]
  show Except.ok (some _) = _
  rw [map_snd_namedReferences]
  rfl

end Resolution

/-! ## Success needs a resolution -/

/-- Members need the definitions of all distinct superclasses, in both layouts. -/
theorem exists_definitions_of_members {layout : Layout} {annotate : Bool}
    {theirs : List String} {ms : List Member}
    (htheirs : c.superclasses.map packages.find? = theirs.map some)
    (h : members layout annotate c classes packages = .ok ms) :
    ∃ ds : List SchemaClass, (distinctSuperclasses c).map classes.find? = ds.map some := by
  cases layout with
  | flatten =>
    rw [members, flatMembers] at h
    obtain ⟨ps, hps, -⟩ := map_eq_ok_iff.mp h
    rw [flatProperties] at hps
    obtain ⟨ds, hds, -⟩ := bind_eq_ok_iff.mp hps
    exact ⟨ds, (mapM_eq_ok_iff fun _ _ => superclassOf_eq_ok_iff).mp hds⟩
  | delegate =>
    rw [members, delegatingMembers] at h
    obtain ⟨hs, hhs, -⟩ := map_eq_ok_iff.mp h
    rw [holders, superclassReferences_eq_ok htheirs] at hhs
    obtain ⟨ds, hds, -⟩ := holdersFrom_eq_ok_iff.mp hhs
    rw [map_fst_namedReferences] at hds
    exact ⟨ds, hds⟩

/-- A class has an implementation exactly when it has properties and everything
that its implementation is made of is in the maps. -/
theorem implementationOf_eq_ok_some_iff {options : EmissionOptions} {t : TypeSource} :
    implementationOf options c classes packages = .ok (some t)
      ↔ c.properties ≠ []
        ∧ ∃ r : Resolution c classes packages, t = r.implementation options := by
  constructor
  · intro h
    have hc : c.properties ≠ [] := by
      intro hnil
      rw [implementationOf, hnil] at h
      cases h
    refine ⟨hc, ?_⟩
    have hempty : ¬ c.properties.isEmpty = true := by
      rw [List.isEmpty_iff]
      exact hc
    have hrun := h
    rw [implementationOf, if_neg hempty] at hrun
    obtain ⟨package, hpackage, hrun⟩ := bind_eq_ok_iff.mp hrun
    obtain ⟨imported, himported, hrun⟩ := bind_eq_ok_iff.mp hrun
    obtain ⟨refs, -, hrun⟩ := bind_eq_ok_iff.mp hrun
    obtain ⟨own, -, hrun⟩ := bind_eq_ok_iff.mp hrun
    obtain ⟨ms, hms, -⟩ := bind_eq_ok_iff.mp hrun
    rw [superclassPackages] at himported
    obtain ⟨theirs, htheirs, -⟩ := bind_eq_ok_iff.mp himported
    rw [mapM_eq_ok_iff fun _ _ => packageOf_eq_ok_iff] at htheirs
    obtain ⟨ds, hds⟩ := exists_definitions_of_members htheirs hms
    let r : Resolution c classes packages :=
      ⟨package, theirs, ds, packageOf_eq_ok_iff.mp hpackage, htheirs, hds⟩
    refine ⟨r, ?_⟩
    rw [r.implementationOf_eq_ok options hc] at h
    exact (Option.some.inj (Except.ok.inj h)).symm
  · rintro ⟨hc, r, rfl⟩
    exact r.implementationOf_eq_ok options hc

/-! ## An instance

A class that repeats its superclass, lists itself, and has a property with the
name of an inherited one. -/

/-- A class whose only property is a name. -/
def person : SchemaClass where
  uri := "http://people/Person"
  properties := [{ uri := "http://people/name" }]

/-- A class of persons, which has a name of its own. -/
def employee : SchemaClass where
  uri := "http://works/Employee"
  superclasses := [person.uri, "http://works/Employee", person.uri]
  properties := [{ uri := "http://works/name" }, { uri := "http://works/wage" }]

def staff : ClassMap := .ofList [(employee.uri, employee), (person.uri, person)]

def staffPackages : PackageMap := .ofList [(employee.uri, "works"), (person.uri, "people")]

/-- What an implementation of the employees is made of. -/
def employeeResolution : Resolution employee staff staffPackages where
  package := "works"
  superclassPackages := ["people", "works", "people"]
  definitions := [person]
  find?_package := by decide
  find?_superclassPackages := by decide
  find?_definitions := by decide

end Ontogen.Emission
