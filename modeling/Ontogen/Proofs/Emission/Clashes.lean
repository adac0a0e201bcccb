import Ontogen.Proofs.Data.OrderedMap
import Ontogen.Proofs.Emission.Conformance

/-!
# Clashes of names

An implementation takes in the properties of its class and of all the direct
superclasses, and gives each of them its name in Java, whatever names the others
have. So the names of its members clash exactly when those of two of these classes
do: the names of methods in both layouts, those of fields in the flat layout. In
the delegating layout no names of fields clash, as inherited properties have no
fields there and the instances are named apart.

Main result: `names_nodup_iff`, for classes whose own names differ. That two
classes may clash, and what it leads to, is `employee_names_clash`.
-/

namespace Ontogen

namespace SchemaClass

/-- The names of the fields of the own properties. -/
def fieldNames (c : SchemaClass) : List String := c.properties.map SchemaProperty.name

/-- The names of the own properties with their first letters in upper case, so
that the case of these does not count. -/
def suffixes (c : SchemaClass) : List String := c.properties.map SchemaProperty.suffix

/-- No two own properties have the same name, also when the case of the first
letter is ignored. -/
def NamesDiffer (c : SchemaClass) : Prop := c.suffixes.Nodup

instance (c : SchemaClass) : Decidable c.NamesDiffer :=
  inferInstanceAs (Decidable c.suffixes.Nodup)

/-- Properties with the same name have the same suffix, so names that differ in
suffix differ. -/
theorem nodup_fieldNames {c : SchemaClass} (h : c.NamesDiffer) : c.fieldNames.Nodup := by
  have hmap : c.suffixes = c.fieldNames.map Source.upperFirst := by
    rw [suffixes, fieldNames, List.map_map]
    rfl
  rw [NamesDiffer, hmap] at h
  exact List.Nodup.of_map _ h

end SchemaClass

namespace Emission

open Source (Accessors Member Signature)
open Data

variable {c : SchemaClass} {classes : ClassMap} {packages : PackageMap}

/-! ## Names of members -/

/-- The names of the fields that a type declares. -/
def TypeSource.fieldNames (t : TypeSource) : List String :=
  t.members.filterMap Member.fieldName?

/-- The names of a getter and a setter. -/
def methodPair (suffix : String) : List String := ["get" ++ suffix, "set" ++ suffix]

/-- The names of the getters and setters that a type defines. -/
def TypeSource.methodNames (t : TypeSource) : List String :=
  (t.implemented.map Signature.suffix).flatMap methodPair

theorem get_ne_set (s s' : String) : "get" ++ s ≠ "set" ++ s' := by
  intro h
  have hlist := congrArg String.toList h
  rw [String.toList_append, String.toList_append] at hlist
  cases hlist

theorem methodPair_nodup (s : String) : (methodPair s).Nodup := by
  rw [methodPair, List.nodup_cons, List.mem_singleton]
  exact ⟨get_ne_set s s, List.nodup_singleton _⟩

theorem disjoint_methodPair_iff {s s' : String} :
    List.Disjoint (methodPair s) (methodPair s') ↔ s ≠ s' := by
  constructor
  · rintro h rfl
    exact h (List.mem_cons_self ..) (List.mem_cons_self ..)
  · intro hne name hmem hmem'
    rw [methodPair, List.mem_cons, List.mem_singleton] at hmem hmem'
    rcases hmem with rfl | rfl
    · rcases hmem' with h | h
      · exact hne ((String.append_right_inj _).mp h)
      · exact get_ne_set s s' h
    · rcases hmem' with h | h
      · exact get_ne_set s' s h.symm
      · exact hne ((String.append_right_inj _).mp h)

/-- No method is defined twice exactly when no suffix is there twice. -/
theorem nodup_flatMap_methodPair_iff {suffixes : List String} :
    (suffixes.flatMap methodPair).Nodup ↔ suffixes.Nodup := by
  rw [List.nodup_flatMap]
  constructor
  · intro h
    exact h.2.imp disjoint_methodPair_iff.mp
  · intro h
    exact ⟨fun s _ => methodPair_nodup s, h.imp disjoint_methodPair_iff.mpr⟩

/-! ## Names in an implementation -/

namespace Resolution

/-- The classes whose properties an implementation takes in. -/
def family (r : Resolution c classes packages) : List SchemaClass := c :: r.definitions

theorem map_properties (r : Resolution c classes packages) (f : SchemaProperty → String) :
    r.properties.map f = r.family.flatMap fun d => d.properties.map f := by
  rw [properties, family, List.map_append, List.map_flatMap, List.flatMap_cons]

theorem methodNames_implementation (r : Resolution c classes packages)
    (options : EmissionOptions) :
    (r.implementation options).methodNames
      = (r.family.flatMap SchemaClass.suffixes).flatMap methodPair := by
  rw [TypeSource.methodNames, r.implemented_implementation, List.map_map]
  exact congrArg (List.flatMap methodPair) (r.map_properties SchemaProperty.suffix)

theorem filterMap_fieldName?_properties (annotate : Bool) (ps : List SchemaProperty) :
    (ps.map fun p => Member.property (fieldOf annotate p)).filterMap Member.fieldName?
      = ps.map SchemaProperty.name :=
  filterMap_map_eq_map fun _ _ => rfl

theorem filterMap_fieldName?_holders (hs : List Holder) :
    (hs.map fun h => Member.holder h.holderField).filterMap Member.fieldName?
      = hs.map Holder.field :=
  filterMap_map_eq_map fun _ _ => rfl

/-- The flat layout has a field for every property it takes in. -/
theorem fieldNames_flatten {r : Resolution c classes packages} {options : EmissionOptions}
    (hlayout : options.layout = .flatten) :
    (r.implementation options).fieldNames = r.family.flatMap SchemaClass.fieldNames := by
  rw [TypeSource.fieldNames, r.filterMap_members_eq_fields options fun _ => rfl, hlayout,
    fields, filterMap_fieldName?_properties, r.map_properties]
  rfl

/-- The delegating layout has a field for every own property, and one with a name
that is not taken for every superclass. -/
theorem fieldNames_delegate {r : Resolution c classes packages} {options : EmissionOptions}
    (hlayout : options.layout = .delegate) :
    (r.implementation options).fieldNames
      = c.fieldNames
        ++ freshNames c.fieldNames ((distinctSuperclasses c).map Source.instanceName) := by
  rw [TypeSource.fieldNames, r.filterMap_members_eq_fields options fun _ => rfl, hlayout,
    fields, List.filterMap_append, filterMap_fieldName?_properties, filterMap_fieldName?_holders,
    r.map_field_holders]
  rfl

theorem definition_mem_values {r : Resolution c classes packages} {d : SchemaClass}
    (hd : d ∈ r.definitions) : d ∈ classes.values := by
  have hmem : some d ∈ r.definitions.map some := List.mem_map_of_mem hd
  rw [← r.find?_definitions] at hmem
  obtain ⟨s, -, hs⟩ := List.mem_map.mp hmem
  exact OrderedMap.mem_values_of_find? hs

theorem namesDiffer_of_mem_family {r : Resolution c classes packages}
    (hdiffer : ∀ d ∈ c :: classes.values, d.NamesDiffer) {d : SchemaClass}
    (hd : d ∈ r.family) : d.NamesDiffer := by
  rcases List.mem_cons.mp hd with rfl | hd
  · exact hdiffer _ (List.mem_cons_self ..)
  · exact hdiffer d (List.mem_cons_of_mem _ (definition_mem_values hd))

end Resolution

/-! ## When names clash -/

/-- Where the names of every single class differ, also without regard to the case
of the first letter, an implementation defines no getter or setter twice exactly
when this holds across its class and the distinct superclasses too. The flat layout
declares no field twice exactly when the plain names differ across these classes,
and the delegating layout never does. -/
theorem names_nodup_iff {options : EmissionOptions} {t : TypeSource}
    (hdiffer : ∀ d ∈ c :: classes.values, d.NamesDiffer)
    (h : implementationOf options c classes packages = .ok (some t)) :
    ∃ definitions : List SchemaClass,
      (distinctSuperclasses c).map classes.find? = definitions.map some
      ∧ (t.methodNames.Nodup
          ↔ (c :: definitions).Pairwise fun d e => List.Disjoint d.suffixes e.suffixes)
      ∧ (options.layout = .flatten → (t.fieldNames.Nodup
          ↔ (c :: definitions).Pairwise fun d e => List.Disjoint d.fieldNames e.fieldNames))
      ∧ (options.layout = .delegate → t.fieldNames.Nodup) := by
  obtain ⟨-, r, rfl⟩ := implementationOf_eq_ok_some_iff.mp h
  have hfamily : ∀ d ∈ r.family, d.NamesDiffer := fun _ =>
    Resolution.namesDiffer_of_mem_family hdiffer
  refine ⟨r.definitions, r.find?_definitions, ?_, ?_, ?_⟩
  · rw [r.methodNames_implementation, nodup_flatMap_methodPair_iff, List.nodup_flatMap]
    exact and_iff_right hfamily
  · intro hlayout
    rw [Resolution.fieldNames_flatten hlayout, List.nodup_flatMap]
    exact and_iff_right fun d hd => SchemaClass.nodup_fieldNames (hfamily d hd)
  · intro hlayout
    rw [Resolution.fieldNames_delegate hlayout, List.nodup_append]
    refine ⟨SchemaClass.nodup_fieldNames (hfamily c (List.mem_cons_self ..)),
      freshNames_nodup _ _, ?_⟩
    rintro name hown _ hfresh rfl
    exact not_mem_freshNames hfresh hown

theorem staff_namesDiffer : ∀ d ∈ employee :: staff.values, d.NamesDiffer := by
  decide +kernel

theorem employee_names_nodup_iff :
    (∀ d ∈ employee :: staff.values, d.NamesDiffer)
      ∧ ∃ (t : TypeSource) (definitions : List SchemaClass),
        implementationOf { layout := .delegate } employee staff staffPackages = .ok (some t)
        ∧ (distinctSuperclasses employee).map staff.find? = definitions.map some
        ∧ (t.methodNames.Nodup ↔ (employee :: definitions).Pairwise
            fun d e => List.Disjoint d.suffixes e.suffixes)
        ∧ t.fieldNames.Nodup := by
  have h := employeeResolution.implementationOf_eq_ok { layout := .delegate } (by decide)
  obtain ⟨definitions, hdefinitions, hmethods, -, hfields⟩ := names_nodup_iff staff_namesDiffer h
  exact ⟨staff_namesDiffer, _, definitions, h, hdefinitions, hmethods, hfields rfl⟩

/-- Names that differ in every single class clash when a class and its superclass
share one: fields and methods in the flat layout, methods in the other one. -/
theorem employee_names_clash :
    (∀ d ∈ employee :: staff.values, d.NamesDiffer)
      ∧ (∃ t, implementationOf { layout := .flatten } employee staff staffPackages = .ok (some t)
          ∧ ¬ t.fieldNames.Nodup ∧ ¬ t.methodNames.Nodup)
      ∧ ∃ t, implementationOf { layout := .delegate } employee staff staffPackages = .ok (some t)
          ∧ ¬ t.methodNames.Nodup := by
  have hemployee : employee.properties ≠ [] := by decide
  refine ⟨staff_namesDiffer, ⟨_, employeeResolution.implementationOf_eq_ok _ hemployee, ?_, ?_⟩,
    _, employeeResolution.implementationOf_eq_ok _ hemployee, ?_⟩
  · decide +kernel
  · decide +kernel
  · decide +kernel

end Emission

end Ontogen
