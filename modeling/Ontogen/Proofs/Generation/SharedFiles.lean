import Mathlib.Data.List.Nodup
import Ontogen.Proofs.Emission.Conformance
import Ontogen.Proofs.Generation.PackageNames
import Ontogen.Proofs.Generation.Writing

/-!
# Files that types share

The place of a type is that of its package and then its name. Types of different classes
may have one place: the names and packages of different URIs can be the same, and the name
of an implementation can be that of another interface. `Collide` says when that is so, in
terms of the packages and names of two classes, and that is all there is to it
(`collide_iff`): two implementations have one place only where their interfaces do, and
the types of one class never do. So the files of a run are apart exactly when no two
classes collide, and what is found in a file is the text of the last type that was written
to it (`Session.read_written`).
-/

namespace Ontogen

open Data (bind_eq_ok_iff)
open Files (FileTree Location IsPlain)
open Emission (TypeSource EmissionError EmissionOptions interfaceOf implementationOf
  implementationPackage)
open Source (typeName)

/-! ## Places of types -/

/-- The place of the directory of a package. -/
def packagePlace (target package : String) : Location :=
  Files.locate (packageDirectory target package)

theorem isPlain_append_java {name : String} (h : '/' ∉ name.toList) :
    IsPlain (name ++ ".java") := by
  refine .of_length ?_ ?_
  · have hjava : ".java".length = 5 := rfl
    rw [String.length_append]
    omega
  · rw [String.toList_append, List.mem_append]
    exact not_or.mpr ⟨h, by decide⟩

/-- Implementations of their own package are in a directory in that of the interfaces. -/
theorem packagePlace_implementationPackage (options : EmissionOptions)
    (target package : String) :
    packagePlace target (implementationPackage options package)
      = packagePlace target package ++ if options.separate then ["impl"] else [] := by
  rw [implementationPackage]
  split
  · have himpl : IsPlain Emission.implementationPart := .of_length (by decide) (by decide)
    rw [packagePlace, packageDirectory, Files.pointParts_append,
      Emission.pointParts_implementationPart, Files.joinParts_concat,
      Files.locate_joinPath _ himpl]
    rfl
  · rw [List.append_nil]

theorem packagePlace_implementationPackage_inj {options : EmissionOptions}
    {target p q : String} :
    packagePlace target (implementationPackage options p)
        = packagePlace target (implementationPackage options q)
      ↔ packagePlace target p = packagePlace target q := by
  rw [packagePlace_implementationPackage, packagePlace_implementationPackage,
    List.append_left_inj]

/-! ## The files of a class -/

/-- The place of the interface of a class with the given package. -/
def interfacePlace (target package : String) (c : SchemaClass) : Location :=
  packagePlace target package ++ [typeName c.uri ++ ".java"]

/-- The place of the implementation of a class with the given package. -/
def implementationPlace (options : EmissionOptions) (target package : String)
    (c : SchemaClass) : Location :=
  packagePlace target (implementationPackage options package)
    ++ [typeName c.uri ++ "Impl" ++ ".java"]

/-- The places of the files of a class with the given package. -/
def classPlaces (options : EmissionOptions) (target package : String) (c : SchemaClass) :
    List Location :=
  interfacePlace target package c ::
    if c.properties = [] then [] else [implementationPlace options target package c]

theorem mem_classPlaces {options : EmissionOptions} {target package : String}
    {c : SchemaClass} {l : Location} :
    l ∈ classPlaces options target package c
      ↔ l = interfacePlace target package c
        ∨ c.properties ≠ [] ∧ l = implementationPlace options target package c := by
  rw [classPlaces, List.mem_cons]
  split
  next hc => simp only [hc, List.not_mem_nil, ne_eq, not_true_eq_false, false_and]
  next hc => simp only [hc, List.mem_singleton, ne_eq, not_false_eq_true, true_and]

theorem interfaceOf_placed {c : SchemaClass} {packages : PackageMap} {i : TypeSource}
    (h : interfaceOf c packages = .ok i) :
    IsPlain (fileName i) ∧ ∃ package, packages.find? c.uri = some package
      ∧ ∀ target, typePlace target i = interfacePlace target package c := by
  obtain ⟨package, hpackage, rfl⟩ := Emission.interfaceOf_eq_ok_iff.mp h
  have hplain : IsPlain (typeName c.uri ++ ".java") :=
    isPlain_append_java (Source.not_mem_identifier (by decide) _)
  exact ⟨hplain, package, hpackage, fun target => Files.locate_joinPath _ hplain⟩

theorem implementationOf_placed {options : EmissionOptions} {c : SchemaClass}
    {classes : ClassMap} {packages : PackageMap} {m : TypeSource}
    (h : implementationOf options c classes packages = .ok (some m)) :
    c.properties ≠ [] ∧ IsPlain (fileName m) ∧ ∃ package, packages.find? c.uri = some package
      ∧ ∀ target, typePlace target m = implementationPlace options target package c := by
  obtain ⟨hc, r, rfl⟩ := Emission.implementationOf_eq_ok_some_iff.mp h
  have hslash : '/' ∉ (typeName c.uri ++ "Impl").toList := by
    rw [String.toList_append, List.mem_append]
    exact not_or.mpr ⟨Source.not_mem_identifier (by decide) _, by decide⟩
  have hplain := isPlain_append_java hslash
  exact ⟨hc, hplain, r.package, r.find?_package, fun target => Files.locate_joinPath _ hplain⟩

/-- Only a class without properties has no implementation. -/
theorem properties_eq_nil_of_implementationOf {options : EmissionOptions} {c : SchemaClass}
    {classes : ClassMap} {packages : PackageMap}
    (h : implementationOf options c classes packages = .ok none) : c.properties = [] := by
  rw [implementationOf] at h
  split at h
  next hempty => exact List.isEmpty_iff.mp hempty
  next =>
    obtain ⟨_, -, h⟩ := bind_eq_ok_iff.mp h
    obtain ⟨_, -, h⟩ := bind_eq_ok_iff.mp h
    obtain ⟨_, -, h⟩ := bind_eq_ok_iff.mp h
    obtain ⟨_, -, h⟩ := bind_eq_ok_iff.mp h
    obtain ⟨_, -, h⟩ := bind_eq_ok_iff.mp h
    cases h

namespace Generator

variable {g : Generator} {target : String} {c d : SchemaClass}

/-- The places of the files of a class. -/
def places (g : Generator) (target : String) (c : SchemaClass) : List Location :=
  match g.packages.find? c.uri with
  | some package => classPlaces g.options.emission target package c
  | none => []

theorem places_of_find? {package : String} (h : g.packages.find? c.uri = some package) :
    g.places target c = classPlaces g.options.emission target package c := by
  rw [places, h]

theorem mem_places {l : Location} :
    l ∈ g.places target c
      ↔ ∃ p, g.packages.find? c.uri = some p
        ∧ (l = interfacePlace target p c
          ∨ c.properties ≠ [] ∧ l = implementationPlace g.options.emission target p c) := by
  constructor
  · intro h
    cases hp : g.packages.find? c.uri with
    | none =>
      rw [places, hp] at h
      cases h
    | some p =>
      rw [places_of_find? hp] at h
      exact ⟨p, rfl, mem_classPlaces.mp h⟩
  · intro h
    obtain ⟨p, hp, h⟩ := h
    rw [places_of_find? hp]
    exact mem_classPlaces.mpr h

/-- The places of what is written for a class. -/
theorem map_typePlace_typesOf {types : List TypeSource} (h : g.typesOf c = .ok types) :
    types.map (typePlace target) = g.places target c := by
  obtain ⟨i, hi, m, hm, rfl⟩ := typesOf_eq_ok_iff.mp h
  obtain ⟨-, package, hpackage, hplace⟩ := interfaceOf_placed hi
  rw [places_of_find? hpackage, classPlaces]
  cases m with
  | none =>
    rw [if_pos (properties_eq_nil_of_implementationOf hm), ← hplace]
    rfl
  | some m =>
    obtain ⟨hc, -, package', hpackage', hplace'⟩ := implementationOf_placed hm
    obtain rfl := Option.some.inj (hpackage.symm.trans hpackage')
    rw [if_neg hc, ← hplace, ← hplace']
    rfl

theorem isPlain_fileName_of_mem_typesOf {types : List TypeSource}
    (h : g.typesOf c = .ok types) {t : TypeSource} (ht : t ∈ types) : IsPlain (fileName t) := by
  obtain ⟨i, hi, m, hm, rfl⟩ := typesOf_eq_ok_iff.mp h
  rcases List.mem_cons.mp ht with rfl | ht
  · exact (interfaceOf_placed hi).1
  · obtain rfl := Option.mem_toList.mp ht
    exact (implementationOf_placed hm).2.1

/-! ## Collisions -/

/-- The interfaces of two classes have one file: the classes have the same type name, and
the directories of their packages are one place. -/
def InterfacesMeet (g : Generator) (target : String) (c d : SchemaClass) : Prop :=
  ∃ p q, g.packages.find? c.uri = some p ∧ g.packages.find? d.uri = some q
    ∧ packagePlace target p = packagePlace target q ∧ typeName c.uri = typeName d.uri

/-- The implementation of the first class has the file of the interface of the second. -/
def ImplementationMeets (g : Generator) (target : String) (c d : SchemaClass) : Prop :=
  c.properties ≠ [] ∧ ∃ p q, g.packages.find? c.uri = some p ∧ g.packages.find? d.uri = some q
    ∧ packagePlace target (implementationPackage g.options.emission p) = packagePlace target q
    ∧ typeName c.uri ++ "Impl" = typeName d.uri

/-- Two classes have a file in common. -/
def Collide (g : Generator) (target : String) (c d : SchemaClass) : Prop :=
  g.InterfacesMeet target c d ∨ g.ImplementationMeets target c d ∨ g.ImplementationMeets target d c

end Generator

theorem interfacePlace_eq_iff {target p q : String} {c d : SchemaClass} :
    interfacePlace target p c = interfacePlace target q d
      ↔ packagePlace target p = packagePlace target q ∧ typeName c.uri = typeName d.uri := by
  rw [interfacePlace, interfacePlace, List.append_singleton_inj, String.append_left_inj]

theorem implementationPlace_eq_interfacePlace_iff {options : EmissionOptions}
    {target p q : String} {c d : SchemaClass} :
    implementationPlace options target p c = interfacePlace target q d
      ↔ packagePlace target (implementationPackage options p) = packagePlace target q
        ∧ typeName c.uri ++ "Impl" = typeName d.uri := by
  rw [implementationPlace, interfacePlace, List.append_singleton_inj, String.append_left_inj]

/-- Where two implementations meet their interfaces do. -/
theorem implementationPlace_eq_iff {options : EmissionOptions} {target p q : String}
    {c d : SchemaClass} :
    implementationPlace options target p c = implementationPlace options target q d
      ↔ packagePlace target p = packagePlace target q ∧ typeName c.uri = typeName d.uri := by
  rw [implementationPlace, implementationPlace, List.append_singleton_inj,
    String.append_left_inj, String.append_left_inj, packagePlace_implementationPackage_inj]

namespace Generator

variable {g : Generator} {target : String} {c d : SchemaClass}

/-- Two classes collide exactly when they have a place in common. -/
theorem collide_iff :
    g.Collide target c d ↔ ∃ l, l ∈ g.places target c ∧ l ∈ g.places target d := by
  constructor
  · rintro (⟨p, q, hp, hq, hmeet⟩ | ⟨hc, p, q, hp, hq, hmeet⟩ | ⟨hd, q, p, hq, hp, hmeet⟩)
    · exact ⟨_, mem_places.mpr ⟨p, hp, Or.inl rfl⟩,
        mem_places.mpr ⟨q, hq, Or.inl (interfacePlace_eq_iff.mpr hmeet)⟩⟩
    · exact ⟨_, mem_places.mpr ⟨p, hp, Or.inr ⟨hc, rfl⟩⟩,
        mem_places.mpr ⟨q, hq, Or.inl (implementationPlace_eq_interfacePlace_iff.mpr hmeet)⟩⟩
    · exact ⟨_, mem_places.mpr ⟨p, hp,
          Or.inl (implementationPlace_eq_interfacePlace_iff.mpr hmeet)⟩,
        mem_places.mpr ⟨q, hq, Or.inr ⟨hd, rfl⟩⟩⟩
  · intro h
    obtain ⟨l, hl, hl'⟩ := h
    obtain ⟨p, hp, hl⟩ := mem_places.mp hl
    obtain ⟨q, hq, hl'⟩ := mem_places.mp hl'
    rcases hl with hl | ⟨hc, hl⟩
    · rw [hl] at hl'
      rcases hl' with heq | ⟨hd, heq⟩
      · exact Or.inl ⟨p, q, hp, hq, interfacePlace_eq_iff.mp heq⟩
      · exact Or.inr (Or.inr ⟨hd, q, p, hq, hp,
          implementationPlace_eq_interfacePlace_iff.mp heq.symm⟩)
    · rw [hl] at hl'
      rcases hl' with heq | ⟨hd, heq⟩
      · exact Or.inr (Or.inl ⟨hc, p, q, hp, hq,
          implementationPlace_eq_interfacePlace_iff.mp heq⟩)
      · exact Or.inl ⟨p, q, hp, hq, implementationPlace_eq_iff.mp heq⟩

/-- The interface and the implementation of a class have different names. -/
theorem nodup_places (g : Generator) (target : String) (c : SchemaClass) :
    (g.places target c).Nodup := by
  rw [places]
  split
  · rw [classPlaces]
    split
    · exact List.nodup_singleton _
    · refine List.nodup_cons.mpr ⟨fun hmem => ?_, List.nodup_singleton _⟩
      have heq := (implementationPlace_eq_interfacePlace_iff.mp (List.mem_singleton.mp hmem).symm).2
      have hlength := congrArg String.length heq
      rw [String.length_append] at hlength
      have himpl : "Impl".length = 4 := rfl
      omega
  · exact List.nodup_nil

theorem forall₂_typesOf {types : List TypeSource} (h : g.types = .ok types) :
    ∃ lists, types = lists.flatten
      ∧ List.Forall₂ (fun c ts => g.typesOf c = .ok ts) g.classes.values lists := by
  obtain ⟨lists, hlists, h⟩ := bind_eq_ok_iff.mp h
  exact ⟨lists, (Except.ok.inj h).symm, Data.mapM_eq_ok_iff_forall₂.mp hlists⟩

/-- The places of what is written are those of the classes. -/
theorem map_typePlace_types {types : List TypeSource} (h : g.types = .ok types) :
    types.map (typePlace target) = g.classes.values.flatMap (g.places target) := by
  obtain ⟨lists, hlists, h⟩ := bind_eq_ok_iff.mp h
  obtain rfl := Except.ok.inj h
  exact Data.map_flatten_of_mapM hlists fun _ _ hc => map_typePlace_typesOf hc

theorem isPlain_fileName_of_mem_flatten {cs : List SchemaClass} {lists : List (List TypeSource)}
    (h : cs.mapM g.typesOf = .ok lists) : ∀ type ∈ lists.flatten, IsPlain (fileName type) :=
  Data.forall_mem_flatten_of_mapM h fun _ _ hc _ htype =>
    isPlain_fileName_of_mem_typesOf hc htype

theorem isPlain_fileName_of_mem_types {types : List TypeSource} (h : g.types = .ok types)
    {t : TypeSource} (ht : t ∈ types) : IsPlain (fileName t) := by
  obtain ⟨lists, hlists, h⟩ := bind_eq_ok_iff.mp h
  obtain rfl := Except.ok.inj h
  exact isPlain_fileName_of_mem_flatten hlists t ht

/-- The files of a run are apart exactly when no two classes collide. -/
theorem nodup_typePlace_iff {types : List TypeSource} (h : g.types = .ok types) :
    (types.map (typePlace target)).Nodup
      ↔ g.classes.values.Pairwise fun c d => ¬ g.Collide target c d := by
  have hdisjoint : ∀ c d, (g.places target c).Disjoint (g.places target d)
      ↔ ¬ g.Collide target c d := by
    intro c d
    rw [collide_iff]
    constructor
    · rintro hd ⟨l, hl, hl'⟩
      exact hd hl hl'
    · intro hd l hl hl'
      exact hd ⟨l, hl, hl'⟩
  rw [map_typePlace_types h, List.nodup_flatMap]
  constructor
  · intro hnodup
    exact hnodup.2.imp fun hcd => (hdisjoint _ _).mp hcd
  · intro hpairwise
    exact ⟨fun c _ => nodup_places g target c, hpairwise.imp fun hcd => (hdisjoint _ _).mpr hcd⟩

/-- The interface of every class is among what is written, and so is the implementation of
every class with properties. -/
theorem exists_mem_types {types : List TypeSource} (h : g.types = .ok types)
    (hc : c ∈ g.classes.values) :
    (∃ i ∈ types, interfaceOf c g.packages = .ok i)
      ∧ (c.properties ≠ [] → ∃ m ∈ types,
          implementationOf g.options.emission c g.classes g.packages = .ok (some m)) := by
  obtain ⟨lists, rfl, hall⟩ := forall₂_typesOf h
  clear h
  generalize g.classes.values = cs at hall hc
  induction hall with
  | nil => cases hc
  | cons hd _ ih =>
    rcases List.mem_cons.mp hc with rfl | hc
    · obtain ⟨i, hi, m, hm, rfl⟩ := typesOf_eq_ok_iff.mp hd
      refine ⟨⟨i, List.mem_append_left _ (List.mem_cons_self ..), hi⟩, fun hproperties => ?_⟩
      cases m with
      | none => exact absurd (properties_eq_nil_of_implementationOf hm) hproperties
      | some m =>
        exact ⟨m, List.mem_append_left _ (List.mem_cons_of_mem _ (List.mem_cons_self ..)), hm⟩
    · obtain ⟨⟨i, hi, hinterface⟩, himplementation⟩ := ih hc
      refine ⟨⟨i, List.mem_append_right _ hi, hinterface⟩, fun hproperties => ?_⟩
      obtain ⟨m, hm, himplementation⟩ := himplementation hproperties
      exact ⟨m, List.mem_append_right _ hm, himplementation⟩

end Generator

/-! ## What is found after a run -/

/-- A type is found at its path with its text. -/
def Found (files : FileTree) (target : String) (t : TypeSource) : Prop :=
  files.read (typePath target t) = .ok t.unit.text

/-- A type whose place is that of no later one is found. -/
theorem Stored.found {target : String} {t u : FileTree} {types : List TypeSource}
    (h : Stored target t types u) (hplain : ∀ type ∈ types, IsPlain (fileName type))
    (hnodup : (types.map (typePlace target)).Nodup) {type : TypeSource} (htype : type ∈ types) :
    Found u target type := by
  obtain ⟨before, after, rfl⟩ := List.append_of_mem htype
  have hnew : typePlace target type ∉ after.map (typePlace target) := by
    rw [List.map_append, List.map_cons, List.nodup_append, List.nodup_cons] at hnodup
    exact hnodup.2.1.1
  rw [Found, h.read_typePath hplain, textAt_of_not_mem hnew]

/-- After a run that writes all types, what is found at the path of a type is the text of
the last type that was written to its place. The places are apart exactly when no two
classes collide; then the paths are different, and the interface of every class is found,
and so is the implementation of every class with properties. -/
theorem Session.read_written {target : String} {s s' : Session} {paths : List String}
    (h : writeTypes target s = (.ok paths, s')) :
    ∃ v types, withClasses s = (.ok (), v) ∧ s'.generator = v.generator
      ∧ s'.generator.types = .ok types
      ∧ paths = types.map (typePath target)
      ∧ (∀ before t after, types = before ++ t :: after →
          s'.workspace.files.read (typePath target t)
            = .ok (textAt target (typePlace target t) t.unit.text after))
      ∧ ((types.map (typePlace target)).Nodup
          ↔ s'.generator.classes.values.Pairwise fun c d => ¬ s'.generator.Collide target c d)
      ∧ ((s'.generator.classes.values.Pairwise fun c d => ¬ s'.generator.Collide target c d) →
          paths.Nodup
            ∧ ∀ c ∈ s'.generator.classes.values,
              (∃ i, interfaceOf c s'.generator.packages = .ok i
                ∧ typePath target i ∈ paths ∧ Found s'.workspace.files target i)
              ∧ (c.properties ≠ [] →
                ∃ m, implementationOf s'.generator.options.emission c s'.generator.classes
                    s'.generator.packages = .ok (some m)
                  ∧ typePath target m ∈ paths ∧ Found s'.workspace.files target m)) := by
  obtain ⟨v, hclasses, w, hwrite, rfl⟩ := writeTypes_eq_ok_iff.mp h
  obtain ⟨types, htypes, rfl, hstored⟩ := Generator.leaves_write_iff.mp ⟨w, hwrite, rfl⟩
  have hplain : ∀ t ∈ types, IsPlain (fileName t) := fun t ht =>
    Generator.isPlain_fileName_of_mem_types htypes ht
  refine ⟨v, types, hclasses, rfl, htypes, rfl, ?_, Generator.nodup_typePlace_iff htypes, ?_⟩
  · rintro before t after rfl
    exact hstored.read_typePath hplain
  · intro hapart
    have hnodup := (Generator.nodup_typePlace_iff htypes).mpr hapart
    have hpaths : types.map (typePlace target)
        = (types.map (typePath target)).map Files.locate := by
      rw [List.map_map]
      rfl
    refine ⟨List.Nodup.of_map Files.locate (hpaths ▸ hnodup), fun c hc => ?_⟩
    obtain ⟨⟨i, hi, hinterface⟩, himplementation⟩ := Generator.exists_mem_types htypes hc
    refine ⟨⟨i, hinterface, List.mem_map_of_mem hi, hstored.found hplain hnodup hi⟩, ?_⟩
    intro hproperties
    obtain ⟨m, hm, himplementation⟩ := himplementation hproperties
    exact ⟨m, himplementation, List.mem_map_of_mem hm, hstored.found hplain hnodup hm⟩

/-! ## Two runs

In a zoo, the implementation of dogs has a package of its own and dogs of the road have
another package. Two spellings of guide dogs are one type name. -/

namespace Zoo

def dog : SchemaClass where
  uri := "http://zoo/Dog"
  properties := [{ uri := "http://zoo/age" }]

def stray : SchemaClass where
  uri := "http://road/Dog"

def guide : SchemaClass where
  uri := "http://zoo/Guide-Dog"

def otherGuide : SchemaClass where
  uri := "http://zoo/Guide_Dog"

/-- A session with the classes of dogs, which have packages. -/
def dogs : Session where
  generator := {
    options := { emission := { separate := true } }
    mapper := {}
    classes := .ofList [(dog.uri, dog), (stray.uri, stray)]
    packages := .ofList [(dog.uri, "zoo"), (stray.uri, "road")] }

/-- A session with the classes of guide dogs, which have one package. -/
def guides : Session where
  generator := {
    options := {}
    mapper := {}
    classes := .ofList [(guide.uri, guide), (otherGuide.uri, otherGuide)]
    packages := .ofList [(guide.uri, "zoo"), (otherGuide.uri, "zoo")] }

/-- The interface of a class in a package. -/
def interface (package : String) (c : SchemaClass) : TypeSource where
  package
  header := .interface (typeName c.uri)
  comment := Emission.classComment c
  imports := []
  members := (c.properties.map (Emission.accessorsOf .declared)).map .accessors

theorem interfaceOf_eq_ok {package : String} {c : SchemaClass} {packages : PackageMap}
    (h : packages.find? c.uri = some package) :
    interfaceOf c packages = .ok (interface package c) :=
  Emission.interfaceOf_eq_ok_iff.mpr ⟨package, h, rfl⟩

def dogResolution : Emission.Resolution dog dogs.generator.classes dogs.generator.packages where
  package := "zoo"
  superclassPackages := []
  definitions := []
  find?_package := by decide +kernel
  find?_superclassPackages := by decide +kernel
  find?_definitions := by decide +kernel

/-- The implementation of dogs. -/
def implementation : TypeSource := dogResolution.implementation dogs.generator.options.emission

def dogTypes : List TypeSource := [interface "zoo" dog, implementation, interface "road" stray]

def guideTypes : List TypeSource := [interface "zoo" guide, interface "zoo" otherGuide]

theorem types_eq_ok {g : Generator} {c d : SchemaClass} {types others : List TypeSource}
    (hvalues : g.classes.values = [c, d]) (hc : g.typesOf c = .ok types)
    (hd : g.typesOf d = .ok others) : g.types = .ok (types ++ others) := by
  have hall : [c, d].mapM g.typesOf = .ok [types, others] :=
    Data.mapM_eq_ok_iff_forall₂.mpr (.cons hc (.cons hd .nil))
  have hflatten : [types, others].flatten = types ++ others := by
    rw [List.flatten_cons, List.flatten_singleton]
  rw [Generator.types, hvalues, hall, ← hflatten]
  rfl

theorem types_dogs : dogs.generator.types = .ok dogTypes := by
  have hdog : dogs.generator.typesOf dog = .ok [interface "zoo" dog, implementation] :=
    Generator.typesOf_eq_ok_iff.mpr ⟨_, interfaceOf_eq_ok (by decide +kernel), some _,
      dogResolution.implementationOf_eq_ok _ (List.cons_ne_nil _ _), rfl⟩
  have hstray : dogs.generator.typesOf stray = .ok [interface "road" stray] :=
    Generator.typesOf_eq_ok_iff.mpr ⟨_, interfaceOf_eq_ok (by decide +kernel), none, rfl, rfl⟩
  exact types_eq_ok (by decide +kernel) hdog hstray

theorem types_guides : guides.generator.types = .ok guideTypes := by
  have hguide : guides.generator.typesOf guide = .ok [interface "zoo" guide] :=
    Generator.typesOf_eq_ok_iff.mpr ⟨_, interfaceOf_eq_ok (by decide +kernel), none, rfl, rfl⟩
  have hother : guides.generator.typesOf otherGuide = .ok [interface "zoo" otherGuide] :=
    Generator.typesOf_eq_ok_iff.mpr ⟨_, interfaceOf_eq_ok (by decide +kernel), none, rfl, rfl⟩
  exact types_eq_ok (by decide +kernel) hguide hother

theorem isStorable_text_dogTypes :
    ∀ type ∈ dogTypes, FileTree.IsStorable type.unit.text := by
  have hlines : ∀ type ∈ dogTypes, ∀ line ∈ { type.unit with members := [] }.lines,
      FileTree.IsStorable line := by decide +kernel
  have hmembers : ∀ type ∈ dogTypes, ∀ m ∈ type.members, ∀ line ∈ m.lines Emission.indent,
      FileTree.IsStorable line := by decide +kernel
  intro type htype
  exact isStorable_text (hlines type htype) (hmembers type htype)

theorem isStorable_text_guideTypes :
    ∀ type ∈ guideTypes, FileTree.IsStorable type.unit.text := by
  have hlines : ∀ type ∈ guideTypes, ∀ line ∈ { type.unit with members := [] }.lines,
      FileTree.IsStorable line := by decide +kernel
  have hmembers : ∀ type ∈ guideTypes, type.members = [] := by decide +kernel
  intro type htype
  refine isStorable_text (hlines type htype) fun m hm => ?_
  rw [hmembers type htype] at hm
  cases hm

theorem stored_dogTypes : ∃ t, Stored "out" ∅ dogTypes t := by
  obtain ⟨hdog, hrest⟩ := List.forall_mem_cons.mp isStorable_text_dogTypes
  obtain ⟨himplementation, hrest⟩ := List.forall_mem_cons.mp hrest
  obtain ⟨hstray, -⟩ := List.forall_mem_cons.mp hrest
  refine ⟨_, .cons (FileTree.write_of_storable (l := ["out", "zoo"])
    (k := ["out", "zoo", "Dog.java"]) (Prod.ext rfl ?_) ?_ hdog) (.cons
    (FileTree.write_of_storable (l := ["out", "zoo", "impl"])
    (k := ["out", "zoo", "impl", "DogImpl.java"]) (Prod.ext rfl ?_) ?_ himplementation) (.cons
    (FileTree.write_of_storable (l := ["out", "road"])
    (k := ["out", "road", "Dog.java"]) (Prod.ext rfl ?_) ?_ hstray) .nil))⟩
  all_goals decide +kernel

theorem stored_guideTypes : ∃ t, Stored "out" ∅ guideTypes t := by
  obtain ⟨hguide, hrest⟩ := List.forall_mem_cons.mp isStorable_text_guideTypes
  obtain ⟨hother, -⟩ := List.forall_mem_cons.mp hrest
  refine ⟨_, .cons (FileTree.write_of_storable (l := ["out", "zoo"])
    (k := ["out", "zoo", "Guide_Dog.java"]) (Prod.ext rfl ?_) ?_ hguide) (.cons
    (FileTree.write_of_storable (l := ["out", "zoo"])
    (k := ["out", "zoo", "Guide_Dog.java"]) (Prod.ext rfl ?_) ?_ hother) .nil)⟩
  all_goals decide +kernel

end Zoo

/-- The dogs of the zoo and of the road are found, each in a file of its own. -/
theorem dogs_read_written :
    ∃ s', Session.writeTypes "out" Zoo.dogs
        = (.ok ["out/zoo/Dog.java", "out/zoo/impl/DogImpl.java", "out/road/Dog.java"], s')
      ∧ (s'.generator.classes.values.Pairwise fun c d => ¬ s'.generator.Collide "out" c d)
      ∧ (∃ i, interfaceOf Zoo.stray s'.generator.packages = .ok i
          ∧ Found s'.workspace.files "out" i)
      ∧ ∃ m, implementationOf s'.generator.options.emission Zoo.dog s'.generator.classes
            s'.generator.packages = .ok (some m)
          ∧ Found s'.workspace.files "out" m := by
  obtain ⟨t, hstored⟩ := Zoo.stored_dogTypes
  obtain ⟨s', hrun, hgenerator, -⟩ := Session.writeTypes_of_stored rfl Zoo.types_dogs hstored
  have hpaths : Zoo.dogTypes.map (typePath "out")
      = ["out/zoo/Dog.java", "out/zoo/impl/DogImpl.java", "out/road/Dog.java"] := by
    decide +kernel
  rw [hpaths] at hrun
  obtain ⟨_, types, -, -, htypes, -, -, hapart, hfound⟩ := Session.read_written hrun
  rw [hgenerator, Zoo.types_dogs] at htypes
  obtain rfl := Except.ok.inj htypes
  have hnocollision := hapart.mp (by decide +kernel)
  obtain ⟨-, hclasses⟩ := hfound hnocollision
  have hvalues : s'.generator.classes.values = [Zoo.dog, Zoo.stray] := by
    rw [hgenerator]
    decide +kernel
  obtain ⟨-, himplementation⟩ := hclasses Zoo.dog (by rw [hvalues]; exact List.mem_cons_self ..)
  obtain ⟨⟨i, hi, -, hfoundi⟩, -⟩ := hclasses Zoo.stray (by
    rw [hvalues]
    exact List.mem_cons_of_mem _ (List.mem_cons_self ..))
  obtain ⟨m, hm, -, hfoundm⟩ := himplementation (List.cons_ne_nil _ _)
  exact ⟨s', hrun, hnocollision, ⟨i, hi, hfoundi⟩, m, hm, hfoundm⟩

/-- The interfaces of the guide dogs have one path, and the first one is lost. -/
theorem guides_share_file :
    ∃ s', Session.writeTypes "out" Zoo.guides
        = (.ok ["out/zoo/Guide_Dog.java", "out/zoo/Guide_Dog.java"], s')
      ∧ ¬ ["out/zoo/Guide_Dog.java", "out/zoo/Guide_Dog.java"].Nodup
      ∧ Zoo.guide ∈ s'.generator.classes.values
      ∧ ∃ i, interfaceOf Zoo.guide s'.generator.packages = .ok i
          ∧ ¬ Found s'.workspace.files "out" i := by
  obtain ⟨t, hstored⟩ := Zoo.stored_guideTypes
  obtain ⟨s', hrun, hgenerator, hfiles⟩ :=
    Session.writeTypes_of_stored rfl Zoo.types_guides hstored
  have hpaths : Zoo.guideTypes.map (typePath "out")
      = ["out/zoo/Guide_Dog.java", "out/zoo/Guide_Dog.java"] := by decide +kernel
  rw [hpaths] at hrun
  refine ⟨s', hrun, by decide, ?_, Zoo.interface "zoo" Zoo.guide, ?_, ?_⟩
  · rw [hgenerator]
    decide +kernel
  · rw [hgenerator]
    exact Zoo.interfaceOf_eq_ok (by decide +kernel)
  · have hplain : ∀ type ∈ Zoo.guideTypes, IsPlain (fileName type) := fun type htype =>
      Generator.isPlain_fileName_of_mem_types Zoo.types_guides htype
    have hall : Stored "out" ∅ ([] ++ Zoo.interface "zoo" Zoo.guide ::
        [Zoo.interface "zoo" Zoo.otherGuide]) t := hstored
    have hread := hall.read_typePath hplain
    rw [Found, hfiles, hread, Except.ok.injEq]
    decide +kernel

end Ontogen
