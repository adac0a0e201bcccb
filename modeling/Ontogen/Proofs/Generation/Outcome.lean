import Ontogen.Proofs.Emission.Missing
import Ontogen.Proofs.Generation.SharedFiles

/-!
# How writing ends

Where files can be stored, nothing but the maps of the generator decides how writing ends.
It succeeds exactly when all classes are complete, and ends otherwise at the first class
that lacks something, with the error that names it. What is there afterwards is told by
the types that were stored until then (`Written`): all types, or those of the classes in
front of the one that lacks something and the interface of that one, if it has a package.
Nothing else in the tree of files has changed, and nothing in the generator
(`Session.writeTypes_outcome`).
-/

namespace Ontogen

open Data (OrderedMap)
open Files (FileTree Location IsPlain)
open Emission (TypeSource EmissionError EmissionOptions IsComplete Lacks interfaceOf
  implementationOf implementationPackage)
open Source (typeName)

/-! ## What is there after types were stored -/

/-- What differs between two trees after types were written one after the other: the last
type at each place is found, and what is at other places is as it was. -/
structure Written (target : String) (types : List TypeSource) (t u : FileTree) : Prop where
  found : ∀ {before type after}, types = before ++ type :: after →
    typePlace target type ∉ after.map (typePlace target) → Found u target type
  kept : ∀ {path text}, t.read path = .ok text →
    Files.locate path ∉ types.map (typePlace target) → u.read path = .ok text
  others : ∀ {l}, l ∉ types.map (typePlace target) → u.files.find? l = t.files.find? l

theorem Stored.find?_of_not_mem {target : String} {t u : FileTree} {types : List TypeSource}
    (h : Stored target t types u) (hplain : ∀ type ∈ types, IsPlain (fileName type))
    {l : Location} (hl : l ∉ types.map (typePlace target)) :
    u.files.find? l = t.files.find? l := by
  induction h with
  | nil => rfl
  | cons hwrite _ ih =>
    obtain ⟨htype, hrest⟩ := List.forall_mem_cons.mp hplain
    rw [List.map_cons, List.mem_cons, not_or] at hl
    obtain ⟨v, hext, -, -, rfl⟩ := FileTree.write_eq_ok htype hwrite
    rw [ih hrest hl.2, OrderedMap.find?_insert, ← hext.files]
    exact if_neg hl.1

theorem Stored.written {target : String} {t u : FileTree} {types : List TypeSource}
    (h : Stored target t types u) (hplain : ∀ type ∈ types, IsPlain (fileName type)) :
    Written target types t u where
  found := by
    intro before type after hsplit hlast
    subst hsplit
    rw [Found, h.read_typePath hplain, textAt_of_not_mem hlast]
  kept := fun hread hplace => by rw [h.read hplain hread, textAt_of_not_mem hplace]
  others := h.find?_of_not_mem hplain

/-! ## The paths of a class -/

/-- The path of the interface of a class with the given package. -/
def interfacePath (target package : String) (c : SchemaClass) : String :=
  Files.joinPath (packageDirectory target package) (typeName c.uri ++ ".java")

/-- The path of the implementation of a class with the given package. -/
def implementationPath (options : EmissionOptions) (target package : String)
    (c : SchemaClass) : String :=
  Files.joinPath (packageDirectory target (implementationPackage options package))
    (typeName c.uri ++ "Impl" ++ ".java")

namespace Generator

variable {g : Generator} {target : String} {c : SchemaClass}

/-- The paths of a class: that of its interface and, if it has properties, that of its
implementation. -/
def pathsOf (g : Generator) (target : String) (c : SchemaClass) : List String :=
  match g.packages.find? c.uri with
  | some package =>
    interfacePath target package c ::
      if c.properties = [] then []
      else [implementationPath g.options.emission target package c]
  | none => []

theorem map_typePath_typesOf {types : List TypeSource} (h : g.typesOf c = .ok types) :
    types.map (typePath target) = g.pathsOf target c := by
  obtain ⟨i, hi, m, hm, rfl⟩ := typesOf_eq_ok_iff.mp h
  obtain ⟨package, hpackage, rfl⟩ := Emission.interfaceOf_eq_ok_iff.mp hi
  rw [pathsOf, hpackage]
  cases m with
  | none =>
    rw [properties_eq_nil_of_implementationOf hm]
    rfl
  | some m =>
    obtain ⟨hc, r, rfl⟩ := Emission.implementationOf_eq_ok_some_iff.mp hm
    obtain rfl := Option.some.inj (hpackage.symm.trans r.find?_package)
    simp only [if_neg hc]
    rfl

theorem map_typePath_flatten {cs : List SchemaClass} {lists : List (List TypeSource)}
    (h : cs.mapM g.typesOf = .ok lists) :
    lists.flatten.map (typePath target) = cs.flatMap (g.pathsOf target) :=
  Data.map_flatten_of_mapM h fun _ _ hc => map_typePath_typesOf hc

/-! ## Complete classes -/

/-- What is written for a class is there exactly when the class is complete. -/
theorem exists_typesOf_iff :
    (∃ types, g.typesOf c = .ok types) ↔ IsComplete c g.classes g.packages := by
  constructor
  · intro h
    obtain ⟨types, htypes⟩ := h
    obtain ⟨i, hi, m, hm, -⟩ := typesOf_eq_ok_iff.mp htypes
    obtain ⟨package, hpackage, -⟩ := Emission.interfaceOf_eq_ok_iff.mp hi
    rcases Emission.isComplete_or_lacks c g.classes g.packages with h | ⟨e, h⟩
    · exact h
    · have hkey := OrderedMap.mem_keys_iff.mpr ⟨package, hpackage⟩
      rw [h.implementationOf_eq_error hkey g.options.emission] at hm
      cases hm
  · intro h
    obtain ⟨⟨i, hi⟩, m, hm⟩ := h.exists_types g.options.emission
    exact ⟨_, typesOf_eq_ok_iff.mpr ⟨i, hi, m, hm, rfl⟩⟩

theorem typesOf_eq_error_of_lacks {e : EmissionError}
    (h : Lacks c g.classes g.packages e) : g.typesOf c = .error e := by
  by_cases hkey : c.uri ∈ g.packages.keys
  · obtain ⟨i, hi⟩ := Emission.exists_interfaceOf hkey
    rw [typesOf, hi, h.implementationOf_eq_error hkey]
    rfl
  · have hinterface := Emission.interfaceOf_eq_error hkey
    cases h with
    | package => rw [typesOf, hinterface]; rfl
    | superclassPackage hpackage => exact absurd hpackage hkey
    | definition hpackage => exact absurd hpackage hkey

/-- The error for a class names what the class lacks first. -/
theorem typesOf_eq_error_iff {e : EmissionError} :
    g.typesOf c = .error e ↔ Lacks c g.classes g.packages e := by
  constructor
  · intro h
    rcases Emission.isComplete_or_lacks c g.classes g.packages with hcomplete | ⟨e', hlacks⟩
    · obtain ⟨types, htypes⟩ := exists_typesOf_iff.mpr hcomplete
      rw [h] at htypes
      cases htypes
    · rw [typesOf_eq_error_of_lacks hlacks] at h
      obtain rfl := Except.error.inj h
      exact hlacks
  · exact typesOf_eq_error_of_lacks

theorem exists_mapM_typesOf_iff {cs : List SchemaClass} :
    (∃ lists, cs.mapM g.typesOf = .ok lists) ↔ ∀ c ∈ cs, IsComplete c g.classes g.packages := by
  constructor
  · intro h c hc
    obtain ⟨lists, hlists⟩ := h
    obtain ⟨types, -, htypes⟩ := Data.exists_mem_of_mapM_eq hlists hc
    exact exists_typesOf_iff.mp ⟨types, htypes⟩
  · intro h
    exact Data.exists_mapM_eq_ok fun c hc => exists_typesOf_iff.mpr (h c hc)

/-- What is begun for a class that lacks something is its interface, if it has a
package. -/
theorem begun_cases (g : Generator) (c : SchemaClass) :
    c.uri ∉ g.packages.keys ∧ g.begun c = []
      ∨ c.uri ∈ g.packages.keys ∧ ∃ i, interfaceOf c g.packages = .ok i ∧ g.begun c = [i] := by
  by_cases hkey : c.uri ∈ g.packages.keys
  · obtain ⟨i, hi⟩ := Emission.exists_interfaceOf hkey
    refine Or.inr ⟨hkey, i, hi, ?_⟩
    rw [begun, hi]
    rfl
  · refine Or.inl ⟨hkey, ?_⟩
    rw [begun, Emission.interfaceOf_eq_error hkey]
    rfl

theorem isPlain_fileName_of_mem_begun : ∀ type ∈ g.begun c, IsPlain (fileName type) := by
  intro type htype
  rcases begun_cases g c with ⟨-, hnone⟩ | ⟨-, i, hi, hone⟩
  · rw [hnone] at htype
    cases htype
  · rw [hone, List.mem_singleton] at htype
    rw [htype]
    exact (interfaceOf_placed hi).1

/-- Writing fails at a file that is in the way, or at a class that lacks something. -/
theorem write_eq_error {g : Generator} {target : String} {w : Workspace} {failure : Failure}
    (h : (g.write target w).1 = .error failure) :
    (∃ e path, failure = .file e path)
      ∨ ∃ c ∈ g.classes.values, ∃ e, Lacks c g.classes g.packages e ∧ failure = .emission e := by
  cases htypes : g.types with
  | ok types =>
    rcases performs_write target htypes w with ⟨hpaths, -⟩ | ⟨-, e, path, he⟩
    · rw [h] at hpaths
      cases hpaths
    · rw [h] at he
      exact Or.inl ⟨e, path, Except.error.inj he⟩
  | error e =>
    obtain ⟨done, c, rest, lists, hvalues, hdone, hc⟩ := types_eq_error_iff.mp htypes
    rcases performs_write_error target hvalues hdone hc w with ⟨he, -⟩ | ⟨-, e, path, he⟩
    · rw [h] at he
      refine Or.inr ⟨c, ?_, e, typesOf_eq_error_iff.mp hc, Except.error.inj he⟩
      rw [hvalues]
      exact List.mem_append_right _ (List.mem_cons_self ..)
    · rw [h] at he
      exact Or.inl ⟨e, path, Except.error.inj he⟩

end Generator

/-! ## The end of a run -/

/-- How writing ends for a generator that knows classes, when no file is in the way. -/
theorem Session.writeTypes_outcome {target : String} {s s' : Session}
    {r : Except Failure (List String)} (hrun : writeTypes target s = (r, s'))
    (hclasses : s.generator.classes.isEmpty = false)
    (hfiles : ∀ e path, r ≠ .error (.file e path)) :
    s'.generator = s.generator
      ∧ ((∃ paths, r = .ok paths)
        ↔ ∀ c ∈ s.generator.classes.values,
            IsComplete c s.generator.classes s.generator.packages)
      ∧ (∀ paths, r = .ok paths →
          paths = s.generator.classes.values.flatMap (s.generator.pathsOf target)
            ∧ ∃ types, s.generator.types = .ok types ∧ paths = types.map (typePath target)
              ∧ Written target types s.workspace.files s'.workspace.files)
      ∧ (∀ failure, r = .error failure →
          ∃ done c rest e lists, s.generator.classes.values = done ++ c :: rest
            ∧ (∀ d ∈ done, IsComplete d s.generator.classes s.generator.packages)
            ∧ Lacks c s.generator.classes s.generator.packages e ∧ failure = .emission e
            ∧ done.mapM s.generator.typesOf = .ok lists
            ∧ (c.uri ∉ s.generator.packages.keys
                  ∧ Written target lists.flatten s.workspace.files s'.workspace.files
              ∨ c.uri ∈ s.generator.packages.keys
                  ∧ ∃ i, interfaceOf c s.generator.packages = .ok i
                    ∧ Written target (lists.flatten ++ [i]) s.workspace.files
                        s'.workspace.files)) := by
  rw [writeTypes_of_classes hclasses] at hrun
  obtain ⟨rfl, rfl⟩ := Prod.mk.inj hrun
  rw [← Generator.exists_mapM_typesOf_iff]
  cases htypes : s.generator.types with
  | ok types =>
    obtain ⟨lists, hlists, hflatten⟩ := Data.bind_eq_ok_iff.mp htypes
    obtain rfl := Except.ok.inj hflatten
    rcases Generator.performs_write target htypes s.workspace with
      ⟨hpaths, hstored⟩ | ⟨-, e, path, he⟩
    · rw [hpaths]
      refine ⟨rfl, ⟨fun _ => ⟨lists, hlists⟩, fun _ => ⟨_, rfl⟩⟩, ?_, ?_⟩
      · intro paths h
        obtain rfl := Except.ok.inj h
        exact ⟨Generator.map_typePath_flatten hlists, _, rfl, rfl,
          hstored.written (Generator.isPlain_fileName_of_mem_flatten hlists)⟩
      · intro failure h
        cases h
    · exact absurd he (hfiles e path)
  | error e =>
    obtain ⟨done, c, rest, lists, hvalues, hdone, hc⟩ := Generator.types_eq_error_iff.mp htypes
    rcases Generator.performs_write_error target hvalues hdone hc s.workspace with
      ⟨hfailure, hstored⟩ | ⟨-, e, path, he⟩
    · rw [hfailure]
      refine ⟨rfl, ?_, ?_, ?_⟩
      · constructor
        · intro h
          obtain ⟨paths, h⟩ := h
          cases h
        · intro h
          obtain ⟨all, hall⟩ := h
          rw [Generator.types, hall] at htypes
          cases htypes
      · intro paths h
        cases h
      · intro failure h
        obtain rfl := Except.error.inj h
        refine ⟨done, c, rest, e, lists, hvalues, ?_, Generator.typesOf_eq_error_iff.mp hc, rfl,
          hdone, ?_⟩
        · exact Generator.exists_mapM_typesOf_iff.mp ⟨lists, hdone⟩
        -- All that was stored are the types of the complete classes and what was begun for `c`.
        have hplain : ∀ type ∈ lists.flatten ++ s.generator.begun c, IsPlain (fileName type) := by
          intro type htype
          rcases List.mem_append.mp htype with htype | htype
          · exact Generator.isPlain_fileName_of_mem_flatten hdone type htype
          · exact Generator.isPlain_fileName_of_mem_begun type htype
        have hwritten := hstored.written hplain
        rcases Generator.begun_cases s.generator c with ⟨hkey, hnone⟩ | ⟨hkey, i, hi, hone⟩
        · rw [hnone, List.append_nil] at hwritten
          exact Or.inl ⟨hkey, hwritten⟩
        · rw [hone] at hwritten
          exact Or.inr ⟨hkey, i, hi, hwritten⟩
    · exact absurd he (hfiles e path)

/-! ## A run that ends early

Dogs of the road have nothing but an interface. Wolfdogs have a superclass with a package
and no definition, so writing ends at them. -/

namespace Zoo

def wolfdog : SchemaClass where
  uri := "http://zoo/Wolfdog"
  superclasses := ["http://zoo/Wolf"]
  properties := [{ uri := "http://zoo/age" }]

/-- A session with the classes of dogs of the road, wolfdogs and dogs, in this order. -/
def pack : Session where
  generator := {
    options := {}
    mapper := {}
    classes := .ofList [(stray.uri, stray), (wolfdog.uri, wolfdog), (dog.uri, dog)]
    packages := .ofList [(stray.uri, "road"), (wolfdog.uri, "zoo"), ("http://zoo/Wolf", "zoo"),
      (dog.uri, "zoo")] }

/-- What is written of the pack. -/
def packTypes : List TypeSource := [interface "road" stray, interface "zoo" wolfdog]

theorem lacks_wolfdog :
    Lacks wolfdog pack.generator.classes pack.generator.packages
      (.unresolvedSuperclass wolfdog.uri "http://zoo/Wolf") := by
  refine .definition (by decide +kernel) (List.cons_ne_nil _ _) (by decide +kernel)
    ⟨by decide +kernel, [], [], by decide +kernel, ?_⟩
  intro s hs
  cases hs

theorem typesOf_stray : pack.generator.typesOf stray = .ok [interface "road" stray] :=
  Generator.typesOf_eq_ok_iff.mpr ⟨_, interfaceOf_eq_ok (by decide +kernel), none, rfl, rfl⟩

theorem stored_packTypes : ∃ t, Stored "out" ∅ packTypes t := by
  have hlines : ∀ type ∈ packTypes, ∀ line ∈ { type.unit with members := [] }.lines,
      FileTree.IsStorable line := by decide +kernel
  have hmembers : ∀ type ∈ packTypes, ∀ m ∈ type.members, ∀ line ∈ m.lines Emission.indent,
      FileTree.IsStorable line := by decide +kernel
  have htexts : ∀ type ∈ packTypes, FileTree.IsStorable type.unit.text := fun type htype =>
    isStorable_text (hlines type htype) (hmembers type htype)
  obtain ⟨hstray, hrest⟩ := List.forall_mem_cons.mp htexts
  obtain ⟨hwolfdog, -⟩ := List.forall_mem_cons.mp hrest
  refine ⟨_, .cons (FileTree.write_of_storable (l := ["out", "road"])
    (k := ["out", "road", "Dog.java"]) (Prod.ext rfl ?_) ?_ hstray) (.cons
    (FileTree.write_of_storable (l := ["out", "zoo"])
    (k := ["out", "zoo", "Wolfdog.java"]) (Prod.ext rfl ?_) ?_ hwolfdog) .nil)⟩
  all_goals decide +kernel

/-- Writing the pack ends at the wolfdogs, and no file is in the way. -/
theorem writeTypes_pack :
    ∃ s', Session.writeTypes "out" pack
      = (.error (.emission (.unresolvedSuperclass wolfdog.uri "http://zoo/Wolf")), s') := by
  have hvalues : pack.generator.classes.values = [stray] ++ wolfdog :: [dog] := by
    decide +kernel
  have hdone : [stray].mapM pack.generator.typesOf = .ok [[interface "road" stray]] :=
    Data.mapM_eq_ok_iff_forall₂.mpr (.cons typesOf_stray .nil)
  have hbegun : pack.generator.begun wolfdog = [interface "zoo" wolfdog] := by
    have hi : interfaceOf wolfdog pack.generator.packages = .ok (interface "zoo" wolfdog) :=
      interfaceOf_eq_ok (by decide +kernel)
    rw [Generator.begun, hi]
    rfl
  have hperforms := Generator.performs_write_error "out" hvalues hdone
    (Generator.typesOf_eq_error_of_lacks lacks_wolfdog)
  rw [hbegun, List.flatten_singleton, List.singleton_append] at hperforms
  have hclasses : pack.generator.classes.isEmpty = false := by decide +kernel
  have hfiles : pack.workspace.files = ∅ := rfl
  obtain ⟨t, hstored⟩ := stored_packTypes
  rcases hperforms pack.workspace with ⟨hfailure, -⟩ | ⟨hnone, -⟩
  · refine ⟨{ pack with workspace := (pack.generator.write "out" pack.workspace).2 }, ?_⟩
    rw [Session.writeTypes_of_classes hclasses, hfailure]
  · rw [hfiles] at hnone
    exact absurd hstored (hnone t)

end Zoo

/-- Of the pack the classes before one that lacks something are written, and the interface of
that one. -/
theorem pack_writeTypes_outcome :
    ∃ e s', Session.writeTypes "out" Zoo.pack = (.error (.emission e), s')
      ∧ Zoo.pack.generator.classes.isEmpty = false
      ∧ (¬ ∀ c ∈ Zoo.pack.generator.classes.values,
          IsComplete c Zoo.pack.generator.classes Zoo.pack.generator.packages)
      ∧ s'.generator = Zoo.pack.generator
      ∧ ∃ done c rest lists, Zoo.pack.generator.classes.values = done ++ c :: rest
        ∧ Lacks c Zoo.pack.generator.classes Zoo.pack.generator.packages e
        ∧ done.mapM Zoo.pack.generator.typesOf = .ok lists
        ∧ ∃ i, interfaceOf c Zoo.pack.generator.packages = .ok i
          ∧ Written "out" (lists.flatten ++ [i]) Zoo.pack.workspace.files
              s'.workspace.files := by
  obtain ⟨s', hrun⟩ := Zoo.writeTypes_pack
  have hclasses : Zoo.pack.generator.classes.isEmpty = false := by decide +kernel
  obtain ⟨hgenerator, hiff, -, hfailure⟩ :=
    Session.writeTypes_outcome hrun hclasses fun e path h => by cases h
  refine ⟨_, s', hrun, hclasses, ?_, hgenerator, ?_⟩
  · intro hall
    obtain ⟨paths, hpaths⟩ := hiff.mpr hall
    cases hpaths
  · obtain ⟨done, c, rest, e, lists, hvalues, -, hlacks, he, hdone, hend⟩ := hfailure _ rfl
    obtain rfl := Failure.emission.inj he
    refine ⟨done, c, rest, lists, hvalues, hlacks, hdone, ?_⟩
    rcases hend with ⟨hkey, -⟩ | ⟨-, hinterface⟩
    · -- All classes of the pack have packages.
      have hall : ∀ d ∈ Zoo.pack.generator.classes.values,
          d.uri ∈ Zoo.pack.generator.packages.keys := by decide +kernel
      refine absurd (hall c ?_) hkey
      rw [hvalues]
      exact List.mem_append_right _ (List.mem_cons_self ..)
    · exact hinterface

end Ontogen
