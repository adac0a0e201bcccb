import Ontogen.Proofs.Emission.Resolution
import Ontogen.Proofs.Source.Signature
import Mathlib.Data.List.Forall2

/-!
# Implementations conform to their interfaces

An implementation says that it implements the interface of its class and those of
the direct superclasses. It does: the accessors that it gives a body to are those
of the own properties and then those of each distinct superclass, in both layouts
and with all options alike (`implemented_implementation`). Every signature that
one of these interfaces declares is among them.

Main result: `implementation_conforms`, which also carries the signatures into
the texts of the members.
-/

namespace Ontogen

/-- The signature of the accessors of a property. -/
def SchemaProperty.signature (p : SchemaProperty) : Source.Signature :=
  ⟨p.javaType, p.suffix, p.name⟩

namespace Emission

open Source (Accessors AccessorBody Member Signature TypeReference typeName)
open Data

variable {c : SchemaClass} {classes : ClassMap} {packages : PackageMap}

/-! ## What types declare and implement -/

/-- The signatures that a type only declares, in the order of its members. -/
def TypeSource.declared (t : TypeSource) : List Signature :=
  t.members.filterMap Member.declared?

/-- The signatures that a type implements, in the order of its members. -/
def TypeSource.implemented (t : TypeSource) : List Signature :=
  t.members.filterMap Member.implemented?

/-- The texts of the members are the declarations of the declared signatures. -/
def TypeSource.DeclaresInText (t : TypeSource) : Prop :=
  List.Forall₂ (Signature.DeclaredIn indent) t.declared t.unit.members

/-- The texts of the members are texts that implement nothing, and then the
bodies for the implemented signatures. -/
def TypeSource.ImplementsInText (t : TypeSource) : Prop :=
  ∃ fields bodies : List String, t.unit.members = fields ++ bodies
    ∧ (∀ text ∈ fields, ∀ s : Signature, ¬ s.ImplementedIn indent text)
    ∧ List.Forall₂ (Signature.ImplementedIn indent) t.implemented bodies

/-! ## Lists of accessors -/

theorem filterMap_implemented?_accessors {as : List Accessors}
    (h : ∀ a ∈ as, a.body ≠ .declared) :
    (as.map Member.accessors).filterMap Member.implemented? = as.map Accessors.signature :=
  filterMap_map_eq_map fun a ha => if_neg (h a ha)

theorem filterMap_declared?_accessors {as : List Accessors}
    (h : ∀ a ∈ as, a.body = .declared) :
    (as.map Member.accessors).filterMap Member.declared? = as.map Accessors.signature :=
  filterMap_map_eq_map fun a ha => if_pos (h a ha)

theorem map_signature_accessorsOf (body : AccessorBody) (ps : List SchemaProperty) :
    (ps.map (accessorsOf body)).map Accessors.signature
      = ps.map SchemaProperty.signature := by
  rw [List.map_map]
  rfl

/-! ## Implementations -/

namespace Resolution

/-- Every field has a name, and so implements nothing. -/
theorem exists_fieldName_of_mem_fields {r : Resolution c classes packages} {layout : Layout}
    {annotate : Bool} {m : Member} (hm : m ∈ r.fields layout annotate) :
    ∃ name, m.fieldName? = some name := by
  cases layout with
  | flatten =>
    obtain ⟨p, -, rfl⟩ := List.mem_map.mp hm
    exact ⟨p.name, rfl⟩
  | delegate =>
    rcases List.mem_append.mp hm with hm | hm
    · obtain ⟨p, -, rfl⟩ := List.mem_map.mp hm
      exact ⟨p.name, rfl⟩
    · obtain ⟨h, -, rfl⟩ := List.mem_map.mp hm
      exact ⟨h.field, rfl⟩

/-- Every accessor of an implementation has a body. -/
theorem body_ne_declared {r : Resolution c classes packages} {layout : Layout}
    {a : Accessors} (ha : a ∈ r.accessors layout) : a.body ≠ .declared := by
  cases layout with
  | flatten =>
    obtain ⟨p, -, rfl⟩ := List.mem_map.mp ha
    intro h
    cases h
  | delegate =>
    rcases List.mem_append.mp ha with ha | ha
    · obtain ⟨p, -, rfl⟩ := List.mem_map.mp ha
      intro h
      cases h
    · obtain ⟨holder, -, ha⟩ := List.mem_flatMap.mp ha
      obtain ⟨p, -, rfl⟩ := List.mem_map.mp ha
      intro h
      cases h

/-- Both layouts have accessors for the same properties in the same order. -/
theorem map_signature_accessors (r : Resolution c classes packages) (layout : Layout) :
    (r.accessors layout).map Accessors.signature
      = r.properties.map SchemaProperty.signature := by
  cases layout with
  | flatten => exact map_signature_accessorsOf .own r.properties
  | delegate =>
    have hforward : (r.holders.flatMap Holder.forwarders).map Accessors.signature
        = (r.definitions.flatMap SchemaClass.properties).map SchemaProperty.signature := by
      rw [← r.map_definition_holders, List.flatMap_map, List.map_flatMap, List.map_flatMap]
      congr 1
      funext h
      exact map_signature_accessorsOf (.forward h.field) h.definition.properties
    rw [accessors, List.map_append, map_signature_accessorsOf, hforward, properties,
      List.map_append]

/-- An implementation implements the own properties and those of the distinct
superclasses, whatever the options are. -/
theorem implemented_implementation (r : Resolution c classes packages)
    (options : EmissionOptions) :
    (r.implementation options).implemented = r.properties.map SchemaProperty.signature := by
  rw [TypeSource.implemented,
    r.filterMap_members_eq_accessors options (fun _ => rfl) fun _ => rfl,
    filterMap_implemented?_accessors fun _ => body_ne_declared, r.map_signature_accessors]

theorem implementsInText_implementation (r : Resolution c classes packages)
    (options : EmissionOptions) : (r.implementation options).ImplementsInText := by
  refine ⟨(r.fields options.layout options.annotate).map (Member.text indent),
    (r.accessors options.layout).map fun a => Member.text indent (.accessors a), ?_, ?_, ?_⟩
  · show (r.fields _ _ ++ (r.accessors _).map Member.accessors).map _ = _
    rw [List.map_append, List.map_map]
    rfl
  · intro text htext s
    obtain ⟨m, hm, rfl⟩ := List.mem_map.mp htext
    obtain ⟨name, hname⟩ := exists_fieldName_of_mem_fields hm
    exact Source.not_implementedIn_text_field hname s
  · rw [r.implemented_implementation, ← r.map_signature_accessors options.layout,
      List.forall₂_map_left_iff, List.forall₂_map_right_iff, List.forall₂_same]
    intro a ha
    exact Source.implementedIn_text (body_ne_declared ha)

end Resolution

/-! ## Interfaces -/

theorem interfaceOf_eq_ok_iff {i : TypeSource} :
    interfaceOf c packages = .ok i
      ↔ ∃ package, packages.find? c.uri = some package ∧ i = {
          package
          header := .interface (typeName c.uri)
          comment := classComment c
          imports := []
          members := (c.properties.map (accessorsOf .declared)).map .accessors } := by
  rw [interfaceOf, bind_eq_ok_iff]
  constructor
  · rintro ⟨package, hpackage, h⟩
    refine ⟨package, packageOf_eq_ok_iff.mp hpackage, ?_⟩
    rw [List.map_map]
    exact (Except.ok.inj h).symm
  · rintro ⟨package, hpackage, rfl⟩
    refine ⟨package, packageOf_eq_ok_iff.mpr hpackage, ?_⟩
    rw [List.map_map]
    rfl

/-- Every accessor of an interface is without a body. -/
theorem body_accessorsOf_declared {ps : List SchemaProperty} {a : Accessors}
    (ha : a ∈ ps.map (accessorsOf .declared)) : a.body = .declared := by
  obtain ⟨p, -, rfl⟩ := List.mem_map.mp ha
  rfl

/-- An interface declares the own properties of its class. -/
theorem declared_of_interfaceOf {i : TypeSource} (h : interfaceOf c packages = .ok i) :
    i.declared = c.properties.map SchemaProperty.signature := by
  obtain ⟨package, -, rfl⟩ := interfaceOf_eq_ok_iff.mp h
  show ((c.properties.map _).map Member.accessors).filterMap _ = _
  rw [filterMap_declared?_accessors fun _ => body_accessorsOf_declared,
    map_signature_accessorsOf]

theorem declaresInText_of_interfaceOf {i : TypeSource} (h : interfaceOf c packages = .ok i) :
    i.DeclaresInText := by
  rw [TypeSource.DeclaresInText, declared_of_interfaceOf h,
    ← map_signature_accessorsOf .declared]
  obtain ⟨package, -, rfl⟩ := interfaceOf_eq_ok_iff.mp h
  show List.Forall₂ _ _ (((c.properties.map _).map Member.accessors).map _)
  rw [List.forall₂_map_left_iff, List.forall₂_map_right_iff, List.forall₂_map_right_iff,
    List.forall₂_same]
  intro a ha
  exact Source.declaredIn_text (body_accessorsOf_declared ha)

/-! ## Conformance -/

/-- An implementation gives a body to exactly the accessors of the own properties
and then of those of each distinct superclass, and the other layout and the other
options give bodies to the same. Hence it implements every signature that the
interface of its class declares, and every one that the interface of a superclass
named in its header does. -/
theorem implementation_conforms {options : EmissionOptions} {t : TypeSource}
    (h : implementationOf options c classes packages = .ok (some t)) :
    ∃ definitions : List SchemaClass,
      (distinctSuperclasses c).map classes.find? = definitions.map some
      ∧ t.implemented = (c.properties ++ definitions.flatMap SchemaClass.properties).map
          SchemaProperty.signature
      ∧ t.ImplementsInText
      ∧ (∀ options', ∃ t', implementationOf options' c classes packages = .ok (some t')
          ∧ t'.implemented = t.implemented)
      ∧ (∃ i, interfaceOf c packages = .ok i ∧ i.DeclaresInText ∧ i.declared ⊆ t.implemented)
      ∧ (∃ own others, t.header = .implementation (typeName c.uri) (own :: others)
          ∧ List.Forall₂ (fun s ref => superclassReference c packages s = .ok ref)
              (distinctSuperclasses c) others)
      ∧ ∀ d ∈ definitions, ∀ i, interfaceOf d packages = .ok i →
          i.DeclaresInText ∧ i.declared ⊆ t.implemented := by
  obtain ⟨hc, r, rfl⟩ := implementationOf_eq_ok_some_iff.mp h
  refine ⟨r.definitions, r.find?_definitions, r.implemented_implementation options,
    r.implementsInText_implementation options, ?_, ?_, ?_, ?_⟩
  · intro options'
    refine ⟨_, r.implementationOf_eq_ok options' hc, ?_⟩
    rw [r.implemented_implementation, r.implemented_implementation]
  · obtain ⟨i, hi⟩ : ∃ i, interfaceOf c packages = .ok i :=
      ⟨_, interfaceOf_eq_ok_iff.mpr ⟨r.package, r.find?_package, rfl⟩⟩
    refine ⟨i, hi, declaresInText_of_interfaceOf hi, ?_⟩
    rw [declared_of_interfaceOf hi, r.implemented_implementation]
    exact List.map_subset _ (List.subset_append_left _ _)
  · refine ⟨_, _, rfl, ?_⟩
    rw [List.forall₂_map_right_iff, List.forall₂_same]
    intro s hs
    obtain ⟨package, -, hpackage⟩ := r.exists_package hs
    exact superclassReference_eq_ok hpackage
  · intro d hd i hi
    refine ⟨declaresInText_of_interfaceOf hi, ?_⟩
    rw [declared_of_interfaceOf hi, r.implemented_implementation]
    refine List.map_subset _ ?_
    intro p hp
    exact List.mem_append_right _ (List.mem_flatMap.mpr ⟨d, hd, hp⟩)

theorem employee_conforms :
    ∃ (t : TypeSource) (definitions : List SchemaClass),
      implementationOf { layout := .delegate } employee staff staffPackages = .ok (some t)
      ∧ (distinctSuperclasses employee).map staff.find? = definitions.map some
      ∧ t.implemented = (employee.properties
          ++ definitions.flatMap SchemaClass.properties).map SchemaProperty.signature := by
  have h := employeeResolution.implementationOf_eq_ok { layout := .delegate } (by decide)
  obtain ⟨definitions, hdefinitions, himplemented, -⟩ := implementation_conforms h
  exact ⟨_, definitions, h, hdefinitions, himplemented⟩

end Emission

end Ontogen
