import Ontogen.Proofs.Emission.Scope
import Ontogen.Proofs.Session.Coverage

/-!
# Ranges in other packages

The accessors of an object property name the interface of its range by the simple name alone.
Imports are made for the superclasses of a class, and for its own package if the
implementation is not in it; interfaces import nothing. So whether a type sees the package
of a range does not depend on the range: it does when that package happens to be one of those
(`Emission.sees_interface_iff`, `Emission.sees_implementation_iff`).

Main result: `Generator.sees_range_iff`. The range in `dog_range_not_seen` is in a package that
neither the interface nor the implementation sees.
-/

namespace Ontogen

open Data (OrderedMap)
open Emission (TypeSource interfaceOf interfaceOf_eq_ok_iff implementationOf)
open Rdf.Vocabulary

namespace Emission

open Source (Member typeName)

variable {c : SchemaClass} {classes : ClassMap} {packages : PackageMap}

/-! ## The packages that are seen -/

/-- An interface sees its own package only. -/
theorem sees_interface_iff {i : TypeSource} (h : interfaceOf c packages = .ok i)
    {package : String} : i.Sees package ↔ package = i.package := by
  obtain ⟨own, -, rfl⟩ := interfaceOf_eq_ok_iff.mp h
  unfold TypeSource.Sees
  refine or_iff_left ?_
  show wildcard package ∉ []
  exact List.not_mem_nil

/-- The packages that an implementation imports: that of its class if the implementation
is not in it, and those of the superclasses. The type that marks are imported
from may read like a package too. -/
theorem Resolution.importsPackage_iff (r : Resolution c classes packages)
    (options : EmissionOptions) {package : String} :
    (r.implementation options).ImportsPackage package
      ↔ (options.separate = true ∧ package = r.package)
        ∨ (options.annotate = true ∧ wildcard package = options.annotationImport)
        ∨ package ∈ r.importedPackages := by
  have himports : (r.implementation options).unit.imports
      = (implementationImports options r.package r.importedPackages).map Import.text := rfl
  unfold TypeSource.ImportsPackage
  rw [himports, implementationImports, List.map_append, List.map_append, List.mem_append,
    List.mem_append, or_assoc]
  refine or_congr ?_ (or_congr ?_ ?_)
  · cases options.separate with
    | false => simp
    | true =>
      simp only [if_true, List.map_cons, List.map_nil, List.mem_singleton, Import.text, true_and]
      exact wildcard_inj
  · cases options.annotate <;> simp [Import.text]
  · rw [List.map_map, List.mem_map]
    constructor
    · intro h
      obtain ⟨imported, hmem, htext⟩ := h
      rwa [wildcard_inj.mp htext] at hmem
    · exact fun h => ⟨package, h, rfl⟩

/-- The packages that an implementation sees: its own, that of its class, and those of the
superclasses, and one that the type which marks are imported from reads like. -/
theorem sees_implementation_iff {options : EmissionOptions} {t : TypeSource}
    (h : implementationOf options c classes packages = .ok (some t)) {package : String} :
    t.Sees package
      ↔ package = t.package ∨ packages.find? c.uri = some package
        ∨ (∃ s ∈ c.superclasses, packages.find? s = some package)
        ∨ options.annotate = true ∧ wildcard package = options.annotationImport := by
  obtain ⟨-, r, rfl⟩ := implementationOf_eq_ok_some_iff.mp h
  have hsuper : package ∈ r.superclassPackages
      ↔ ∃ s ∈ c.superclasses, packages.find? s = some package := by
    have hmem : some package ∈ c.superclasses.map packages.find?
        ↔ some package ∈ r.superclassPackages.map some := by rw [r.find?_superclassPackages]
    simp only [List.mem_map, Option.some_inj, exists_eq_right] at hmem
    exact hmem.symm
  have hown : packages.find? c.uri = some package ↔ package = r.package := by
    rw [r.find?_package, Option.some_inj, eq_comm]
  rw [← hsuper, hown]
  constructor
  · intro hsees
    rcases hsees with hsame | himport
    · exact .inl hsame
    · rcases (r.importsPackage_iff options).mp himport with h | h | h
      · exact .inr (.inl h.2)
      · exact .inr (.inr (.inr h))
      · rw [Resolution.importedPackages, List.mem_filter, Data.mem_ascending] at h
        exact .inr (.inr (.inl h.1))
  · intro hcases
    rcases hcases with h | h | h | h
    · exact .inl h
    · rw [h]
      exact r.sees_package options
    · exact Resolution.sees_superclassPackage h options
    · exact .inr ((r.importsPackage_iff options).mpr (.inr (.inl h)))

/-! ## Ranges that are named -/

/-- The accessors of an object property are in a type, and the type of the property is
the simple name of its range. -/
structure TypeSource.NamesRange (t : TypeSource) (p : SchemaProperty) (r : Uri) : Prop where
  accessors : ∃ body, Member.accessors (accessorsOf body p) ∈ t.members
  kind : p.kind = .object
  range : p.range = some (.uri r)
  javaType : p.javaType = typeName r

end Emission

/-! ## Loaded classes -/

namespace Generator

open Source (typeName)

/-- Every class that a generator covers has its interface. -/
theorem Covers.exists_interface {g : Generator} (hg : g.Covers) {r : Uri}
    (hr : r ∈ g.classes.keys) :
    ∃ d j, g.classes.find? r = some d ∧ interfaceOf d g.packages = .ok j
      ∧ g.packages.find? r = some j.package ∧ j.header = .interface (typeName r) := by
  obtain ⟨d, hd⟩ := OrderedMap.mem_keys_iff.mp hr
  have hcovered := hg (r, d) (OrderedMap.find?_eq_some_iff.mp hd)
  obtain ⟨package, hpackage⟩ := OrderedMap.mem_keys_iff.mp hcovered.class_mem
  have huri : d.uri = r := hcovered.uri_eq
  refine ⟨d, _, hd, interfaceOf_eq_ok_iff.mpr ⟨package, ?_, rfl⟩, hpackage, ?_⟩
  · rw [huri]
    exact hpackage
  · rw [← huri]

/-- After a load that finds packages, a type that names a range which is a class of the run
means its interface. The interface of a class sees that one only in its own package. The
implementation sees it also in the package of the class and in those of the superclasses, and
in one that the type which marks are imported from reads like. -/
theorem sees_range_iff {g g' : Generator} {graph : Rdf.Graph} {c : SchemaClass}
    (hload : (g.load graph.loadClasses.classes).2 = .ok ())
    (hg : g' = (g.load graph.loadClasses.classes).1) (hc : c ∈ g'.classes.values) :
    (∃ i, interfaceOf c g'.packages = .ok i
      ∧ ∀ p r, i.NamesRange p r → r ∈ g'.classes.keys →
        ∃ d j, g'.classes.find? r = some d ∧ interfaceOf d g'.packages = .ok j
          ∧ j.header = .interface p.javaType
          ∧ (i.Sees j.package ↔ j.package = i.package))
      ∧ ∀ options t, implementationOf options c g'.classes g'.packages = .ok (some t) →
        ∀ p r, t.NamesRange p r → r ∈ g'.classes.keys →
          ∃ d j, g'.classes.find? r = some d ∧ interfaceOf d g'.packages = .ok j
            ∧ j.header = .interface p.javaType
            ∧ (t.Sees j.package
              ↔ j.package = t.package ∨ g'.packages.find? c.uri = some j.package
                ∨ (∃ s ∈ c.superclasses, g'.packages.find? s = some j.package)
                ∨ options.annotate = true
                  ∧ Emission.wildcard j.package = options.annotationImport) := by
  have hcovers : g'.Covers := by
    rw [hg]
    exact covers_load hload
  obtain ⟨entry, hentry, rfl⟩ := List.mem_map.mp hc
  have hcovered := hcovers entry hentry
  refine ⟨?_, ?_⟩
  · obtain ⟨package, hpackage⟩ := OrderedMap.mem_keys_iff.mp hcovered.class_mem
    rw [← hcovered.uri_eq] at hpackage
    have hi := interfaceOf_eq_ok_iff.mpr ⟨package, hpackage, rfl⟩
    refine ⟨_, hi, fun p r hnames hr => ?_⟩
    obtain ⟨d, j, hd, hj, -, hheader⟩ := hcovers.exists_interface hr
    rw [← hnames.javaType] at hheader
    exact ⟨d, j, hd, hj, hheader, Emission.sees_interface_iff hi⟩
  · intro options t ht p r hnames hr
    obtain ⟨d, j, hd, hj, -, hheader⟩ := hcovers.exists_interface hr
    rw [← hnames.javaType] at hheader
    exact ⟨d, j, hd, hj, hheader, Emission.sees_implementation_iff ht⟩

end Generator

/-! ## Dogs and their owners

Dogs have owners, who are persons, and rivals, who are dogs. Persons have another
namespace than dogs. -/

namespace Owners

def graph : Rdf.Graph := Rdf.Graph.empty.addAll
  [⟨.uri "http://zoo/Dog", .uri rdfType, .uri owlClass⟩,
    ⟨.uri "http://people/Person", .uri rdfType, .uri owlClass⟩,
    ⟨.uri "http://zoo/owner", .uri rdfType, .uri owlObjectProperty⟩,
    ⟨.uri "http://zoo/owner", .uri rdfsDomain, .uri "http://zoo/Dog"⟩,
    ⟨.uri "http://zoo/owner", .uri rdfsRange, .uri "http://people/Person"⟩,
    ⟨.uri "http://zoo/rival", .uri rdfType, .uri owlObjectProperty⟩,
    ⟨.uri "http://zoo/rival", .uri rdfsDomain, .uri "http://zoo/Dog"⟩,
    ⟨.uri "http://zoo/rival", .uri rdfsRange, .uri "http://zoo/Dog"⟩]

def owner : SchemaProperty where
  uri := "http://zoo/owner"
  kind := .object
  range := some (.uri "http://people/Person")

def rival : SchemaProperty where
  uri := "http://zoo/rival"
  kind := .object
  range := some (.uri "http://zoo/Dog")

def dog : SchemaClass where
  uri := "http://zoo/Dog"
  properties := [owner, rival]

def person : SchemaClass where
  uri := "http://people/Person"

/-- What a load finds in the graph. -/
def classes : ClassMap := ⟨[(dog.uri, dog), (person.uri, person)], by decide⟩

def packages : PackageMap := ⟨[(dog.uri, "zoo"), (person.uri, "people")], by decide⟩

def generator : Generator := { (default : Generator) with classes, packages }

theorem load_graph :
    Generator.load default graph.loadClasses.classes = (generator, .ok ()) := by
  have hclasses : graph.loadClasses.classes = classes :=
    OrderedMap.ext_entries (by decide +kernel)
  have hpackages : ((default : Generator).mapper.packageMap (Generator.mentioned classes)).map
      OrderedMap.entries = .ok packages.entries := by decide +kernel
  obtain ⟨found, hfound, hentries⟩ := Data.map_eq_ok_iff.mp hpackages
  obtain rfl := OrderedMap.ext_entries hentries
  rw [hclasses, Generator.load, hfound]
  rfl

/-- What is written for the dogs. -/
def interface : TypeSource where
  package := "zoo"
  header := .interface "Dog"
  comment := ["http://zoo/Dog"]
  imports := []
  members := [.accessors (Emission.accessorsOf .declared owner),
    .accessors (Emission.accessorsOf .declared rival)]

def implementation : TypeSource where
  package := "zoo"
  header := .implementation "Dog" [{ name := "Dog" }]
  comment := ["http://zoo/Dog"]
  imports := []
  members := [.property (Emission.fieldOf false owner), .property (Emission.fieldOf false rival),
    .accessors (Emission.accessorsOf .own owner), .accessors (Emission.accessorsOf .own rival)]

/-- The implementation of the dogs when it has a package of its own. -/
def separateImplementation : TypeSource :=
  { implementation with package := "zoo.impl", imports := [.package "zoo"] }

/-- What is written for the persons. -/
def personInterface : TypeSource where
  package := "people"
  header := .interface "Person"
  comment := ["http://people/Person"]
  imports := []
  members := []

theorem interfaceOf_dog : interfaceOf dog generator.packages = .ok interface := by decide +kernel

end Owners

/-- Dogs are in the package of their interface, and their separate implementation imports it. -/
theorem dog_sees_rival_iff :
    (Generator.load default Owners.graph.loadClasses.classes).2 = .ok ()
      ∧ Owners.generator = (Generator.load default Owners.graph.loadClasses.classes).1
      ∧ Owners.dog ∈ Owners.generator.classes.values
      ∧ Owners.interface.NamesRange Owners.rival Owners.dog.uri
      ∧ Owners.dog.uri ∈ Owners.generator.classes.keys
      ∧ ∃ j : TypeSource, interfaceOf Owners.dog Owners.generator.packages = .ok j
        ∧ j.header = .interface Owners.rival.javaType
        ∧ (Owners.interface.Sees j.package ↔ j.package = "zoo")
        ∧ ∃ t : TypeSource, implementationOf { separate := true } Owners.dog
            Owners.generator.classes Owners.generator.packages = .ok (some t)
          ∧ t.NamesRange Owners.rival Owners.dog.uri
          ∧ t.package = "zoo.impl" ∧ t.unit.imports = ["zoo.*"] ∧ t.Sees j.package := by
  have hload : (Generator.load default Owners.graph.loadClasses.classes).2 = .ok () := by
    rw [Owners.load_graph]
  have hgenerator :
      Owners.generator = (Generator.load default Owners.graph.loadClasses.classes).1 := by
    rw [Owners.load_graph]
  have hdog : Owners.dog ∈ Owners.generator.classes.values := List.mem_cons_self ..
  have hkey : Owners.dog.uri ∈ Owners.generator.classes.keys := List.mem_cons_self ..
  have hnames : Owners.interface.NamesRange Owners.rival Owners.dog.uri :=
    ⟨⟨.declared, by decide +kernel⟩, rfl, rfl, by decide +kernel⟩
  have himplementation : implementationOf { separate := true } Owners.dog
      Owners.generator.classes Owners.generator.packages
        = .ok (some Owners.separateImplementation) := by decide +kernel
  have hnames' : Owners.separateImplementation.NamesRange Owners.rival Owners.dog.uri :=
    ⟨⟨.own, by decide +kernel⟩, rfl, rfl, by decide +kernel⟩
  obtain ⟨⟨i, hi, hranges⟩, hranges'⟩ := Generator.sees_range_iff hload hgenerator hdog
  obtain rfl := Except.ok.inj (Owners.interfaceOf_dog.symm.trans hi)
  obtain ⟨d, j, hd, hj, hheader, hsees⟩ := hranges _ _ hnames hkey
  obtain rfl : Owners.dog = d := by
    have hfind : Owners.generator.classes.find? Owners.dog.uri = some Owners.dog := by
      decide +kernel
    exact Option.some.inj (hfind.symm.trans hd)
  refine ⟨hload, hgenerator, hdog, hnames, hkey, j, hj, hheader, hsees, _, himplementation,
    hnames', rfl, by decide +kernel, ?_⟩
  obtain ⟨d', j', hd', hj', -, hsees'⟩ := hranges' _ _ himplementation _ _ hnames' hkey
  obtain rfl := Option.some.inj (hd.symm.trans hd')
  obtain rfl := Except.ok.inj (hj.symm.trans hj')
  obtain rfl := Except.ok.inj (Owners.interfaceOf_dog.symm.trans hj)
  exact hsees'.mpr (.inr (.inl (by decide +kernel)))

/-- The dogs name persons in their interface and in their implementation, and neither sees the
package that the interface of the persons is in. -/
theorem dog_range_not_seen :
    (Generator.load default Owners.graph.loadClasses.classes).2 = .ok ()
      ∧ Owners.generator = (Generator.load default Owners.graph.loadClasses.classes).1
      ∧ Owners.dog ∈ Owners.generator.classes.values
      ∧ Owners.person.uri ∈ Owners.generator.classes.keys
      ∧ ∃ i t j, interfaceOf Owners.dog Owners.generator.packages = .ok i
        ∧ implementationOf {} Owners.dog Owners.generator.classes Owners.generator.packages
          = .ok (some t)
        ∧ interfaceOf Owners.person Owners.generator.packages = .ok j
        ∧ i.NamesRange Owners.owner Owners.person.uri ∧ ¬ i.Sees j.package
        ∧ t.NamesRange Owners.owner Owners.person.uri ∧ ¬ t.Sees j.package := by
  have himplementation : implementationOf {} Owners.dog Owners.generator.classes
      Owners.generator.packages = .ok (some Owners.implementation) := by decide +kernel
  have hperson : interfaceOf Owners.person Owners.generator.packages
      = .ok Owners.personInterface := by decide +kernel
  refine ⟨?_, ?_, ?_, ?_, _, _, _, Owners.interfaceOf_dog, himplementation, hperson, ?_, ?_, ?_, ?_⟩
  · rw [Owners.load_graph]
  · rw [Owners.load_graph]
  · exact List.mem_cons_self ..
  · exact List.mem_cons_of_mem _ (List.mem_cons_self ..)
  · exact ⟨⟨.declared, by decide +kernel⟩, rfl, rfl, by decide +kernel⟩
  · rw [Emission.sees_interface_iff Owners.interfaceOf_dog]
    decide
  · exact ⟨⟨.own, by decide +kernel⟩, rfl, rfl, by decide +kernel⟩
  · rw [Emission.sees_implementation_iff himplementation]
    decide +kernel

end Ontogen
