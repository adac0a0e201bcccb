import Ontogen.Proofs.Emission.FieldLines
import Ontogen.Proofs.Emission.FieldUse
import Ontogen.Proofs.Emission.Imports

/-!
# Flags of an implementation

Two flags say whether fields are marked with the URIs of their properties and whether
implementations have packages of their own. Each does its work apart from the other: a separate
implementation is moved to another package and imports the one that it left
(`CompilationUnit.moved`), and an annotated one has an import more, and a line more in the fields
of its properties (`IsAnnotated`). Whether there is an implementation does not depend on them.

Main result: `flags_apart`.
-/

namespace Ontogen

/-- The unit in the package for implementations, with an import of the package that it left. -/
def Source.CompilationUnit.moved (u : CompilationUnit) : CompilationUnit :=
  { u with
    package := u.package ++ ".impl"
    imports := Emission.wildcard u.package :: u.imports }

namespace Emission

open Source (CompilationUnit Member joinLines)

variable {c : SchemaClass} {classes : ClassMap} {packages : PackageMap}
  {options : EmissionOptions}

/-- The options with other flags. -/
def EmissionOptions.flagged (options : EmissionOptions) (annotate separate : Bool) :
    EmissionOptions :=
  { options with annotate, separate }

/-! ## Fields of properties -/

/-- The properties that an implementation has fields for: those of the class and, in the flat
layout, those of its distinct superclasses. -/
def propertiesWithFields (layout : Layout) (c : SchemaClass) (classes : ClassMap) :
    List SchemaProperty :=
  match layout with
  | .flatten => c.properties ++ (inherited c classes).map Prod.snd
  | .delegate => c.properties

/-- The members beside the fields of properties: the fields of instances and all accessors. -/
def Resolution.others (r : Resolution c classes packages) (layout : Layout) : List Member :=
  (match layout with
    | .flatten => []
    | .delegate => r.holders.map fun h => .holder h.holderField)
    ++ (r.accessors layout).map .accessors

theorem Resolution.ne_property_of_mem_others (r : Resolution c classes packages) {layout : Layout}
    {m : Member} (hm : m ∈ r.others layout) : ∀ f, m ≠ .property f := by
  rintro f rfl
  rcases List.mem_append.mp hm with hm | hm
  · cases layout with
    | flatten => cases hm
    | delegate =>
      obtain ⟨h, -, heq⟩ := List.mem_map.mp hm
      cases heq
  · obtain ⟨a, -, heq⟩ := List.mem_map.mp hm
    cases heq

/-- Only in the fields of properties the members show whether there are annotations. -/
theorem Resolution.members_eq (r : Resolution c classes packages) (layout : Layout)
    (annotate : Bool) :
    r.members layout annotate
      = (propertiesWithFields layout c classes).map (fun p => .property (fieldOf annotate p))
        ++ r.others layout := by
  cases layout with
  | flatten =>
    have hproperties : r.properties = propertiesWithFields .flatten c classes := by
      rw [properties, propertiesWithFields, inherited,
        map_snd_flatMap_propertiesFrom r.find?_definitions]
    rw [members, fields, hproperties]
    rfl
  | delegate =>
    rw [members, fields, List.append_assoc]
    rfl

/-! ## Flags -/

/-- One unit is the other with annotations: right before the imports for superclasses it has
that of the annotation, and in the field of each property a line with the URI of this property
between the doc comment and the declaration (`fieldLines`). All else is the same. -/
structure IsAnnotated (imported : String) (theirs : List String) (ps : List SchemaProperty)
    (others : List Member) (u v : CompilationUnit) : Prop where
  package : v.package = u.package
  comment : v.comment = u.comment
  declaration : v.declaration = u.declaration
  imports : ∃ front, u.imports = front ++ theirs ∧ v.imports = front ++ imported :: theirs
  fields : u.members
    = ps.map (fun p => joinLines (fieldLines indent false p)) ++ others.map (Member.text indent)
  marked : v.members
    = ps.map (fun p => joinLines (fieldLines indent true p)) ++ others.map (Member.text indent)

theorem Resolution.unit_members (r : Resolution c classes packages) (annotate separate : Bool) :
    (r.implementation (options.flagged annotate separate)).unit.members
      = (propertiesWithFields options.layout c classes).map
          (fun p => joinLines (fieldLines indent annotate p))
        ++ (r.others options.layout).map (Member.text indent) := by
  show (r.members options.layout annotate).map (Member.text indent) = _
  rw [r.members_eq, List.map_append, List.map_map]
  exact congrArg (· ++ _) (List.map_congr_left fun p _ => text_fieldOf indent annotate p)

theorem Resolution.isAnnotated (r : Resolution c classes packages) (separate : Bool) :
    IsAnnotated options.annotationImport (r.importedPackages.map wildcard)
      (propertiesWithFields options.layout c classes) (r.others options.layout)
      (r.implementation (options.flagged false separate)).unit
      (r.implementation (options.flagged true separate)).unit where
  package := rfl
  comment := rfl
  declaration := rfl
  imports := by
    -- Only the import of the package that was left may come before that of the annotation.
    refine ⟨if separate then [wildcard r.package] else [], ?_, ?_⟩
    · rw [imports_unit_implementation]
      exact congrArg (· ++ _) (List.append_nil _)
    · rw [imports_unit_implementation, List.append_assoc]
      rfl
  fields := r.unit_members false separate
  marked := r.unit_members true separate

theorem Resolution.unit_moved (r : Resolution c classes packages) (annotate : Bool) :
    (r.implementation (options.flagged annotate true)).unit
      = (r.implementation (options.flagged annotate false)).unit.moved := by
  have himports : (r.implementation (options.flagged annotate true)).unit.imports
      = wildcard r.package
        :: (r.implementation (options.flagged annotate false)).unit.imports := by
    rw [imports_unit_implementation, imports_unit_implementation]
    rfl
  unfold CompilationUnit.moved
  rw [CompilationUnit.mk.injEq]
  exact ⟨String.append_assoc, rfl, rfl, himports, rfl⟩

/-- A class that has an implementation has one with all settings of the two flags. To make it
separate moves it to the package for implementations and puts an import of the package that it
left in front of the others. To annotate it adds the import of the annotation before those for
superclasses, and to the field of each property a line with the URI of this property. The
declaration, the comment, the fields of instances and all accessors are the same with all
settings, in number and order too. -/
theorem flags_apart {t : TypeSource}
    (h : implementationOf options c classes packages = .ok (some t)) :
    ∃ types : Bool → Bool → TypeSource,
      (∀ annotate separate, implementationOf (options.flagged annotate separate) c classes packages
          = .ok (some (types annotate separate)))
        ∧ types options.annotate options.separate = t
        ∧ (∀ annotate, (types annotate true).unit = (types annotate false).unit.moved)
        ∧ ∃ theirs others, superclassPackages c packages = .ok theirs
          ∧ (∀ m ∈ others, ∀ f, m ≠ Member.property f)
          ∧ ∀ separate, IsAnnotated options.annotationImport (theirs.map wildcard)
              (propertiesWithFields options.layout c classes) others
              (types false separate).unit (types true separate).unit := by
  obtain ⟨hc, r, rfl⟩ := implementationOf_eq_ok_some_iff.mp h
  refine ⟨fun annotate separate => r.implementation (options.flagged annotate separate), ?_, rfl,
    r.unit_moved, r.importedPackages, r.others options.layout, r.superclassPackages_eq_ok, ?_, ?_⟩
  · exact fun annotate separate => r.implementationOf_eq_ok (options.flagged annotate separate) hc
  · exact fun m hm => r.ne_property_of_mem_others hm
  · exact fun separate => r.isAnnotated separate

/-- The employees with both flags, told from how they are without any. -/
theorem employee_flags_apart :
    implementationOf { layout := .delegate } employee staff staffPackages
        = .ok (some (employeeResolution.implementation { layout := .delegate }))
      ∧ ∃ t, implementationOf { layout := .delegate, annotate := true, separate := true }
          employee staff staffPackages = .ok (some t)
        ∧ t.unit.package = "works.impl"
        ∧ t.unit.imports = ["works.*", "org.openimaj.rdf.serialize.Predicate", "people.*"]
        ∧ "\t/** http://works/wage */\n\t@Predicate(\"http://works/wage\")\n\tprivate String wage;"
          ∈ t.unit.members := by
  have hplain := employeeResolution.implementationOf_eq_ok { layout := .delegate } (by decide)
  have htheirs : superclassPackages employee staffPackages = .ok ["people"] := by
    decide +kernel
  obtain ⟨types, htypes, heq, hmoved, theirs, others, hpackages, -, hannotated⟩ :=
    flags_apart hplain
  obtain rfl := Except.ok.inj (hpackages.symm.trans htheirs)
  have hwage : propertiesWithFields .delegate employee staff
      = [{ uri := "http://works/name" }, { uri := "http://works/wage" }] := rfl
  obtain ⟨hpackage, -, -, ⟨front, hfront, himports⟩, -, hmarked⟩ := hannotated false
  rw [heq] at hpackage hfront
  have hnil : front = [] := by
    have himported : [wildcard "people"] = front ++ [wildcard "people"] := hfront
    exact List.self_eq_append_left.mp himported
  rw [hnil] at himports
  refine ⟨hplain, types true true, htypes true true, ?_, ?_, ?_⟩
  · rw [hmoved]
    show (types true false).unit.package ++ ".impl" = _
    rw [hpackage]
    decide +kernel
  · rw [hmoved]
    show wildcard (types true false).unit.package :: (types true false).unit.imports = _
    rw [hpackage, himports]
    decide +kernel
  · rw [hmoved]
    show _ ∈ (types true false).unit.members
    rw [hmarked, hwage]
    refine List.mem_append_left _ ?_
    decide +kernel

end Emission

end Ontogen
