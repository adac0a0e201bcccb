import Ontogen.Proofs.Emission.Resolution

/-!
# How held instances are named

The field of a held instance gets the first name that is not taken: that of the
superclass is tried first, and as long as the name that was tried is taken, the next one
is that of the superclass with a number, from 2 on. `Search` says this step by step and sets
no bound. Since numbered names are all different, the search ends whatever is taken, and
it ends in one name only (`NamedAfter.search_iff`).

Main result: `holders_named`. There is one instance for each distinct superclass, in order,
and the names that are taken for it are those of the own properties and of the instances
before it. So no two fields have the same name, also when a name with a number is that
of a later superclass.
-/

namespace Ontogen.Emission

open Source (TypeReference instanceName)
open Data

/-! ## Trying names -/

/-- The search for a name that is not taken, from a name that is tried and the number
that comes next. -/
inductive Search (taken : List String) (base : String) : String → Nat → String → Prop where
  | found {name : String} {n : Nat} (hfree : name ∉ taken) : Search taken base name n name
  | next {name result : String} {n : Nat} (htaken : name ∈ taken)
      (rest : Search taken base (numbered base n) (n + 1) result) :
      Search taken base name n result

/-- A name after a base among names that are taken: the base itself, or with the least
number from 2 on that makes it a name which is not taken. -/
inductive NamedAfter (taken : List String) (base : String) : String → Prop where
  | plain (hfree : base ∉ taken) : NamedAfter taken base base
  | numbered {n : Nat} (htaken : base ∈ taken) (hn : 2 ≤ n)
      (hfree : numbered base n ∉ taken)
      (hleast : ∀ k, 2 ≤ k → k < n → numbered base k ∈ taken) :
      NamedAfter taken base (numbered base n)

variable {taken taken' : List String} {base name : String}

/-- A search that ends in two names ends in one. -/
theorem Search.unique {result result' : String} {n : Nat}
    (h : Search taken base name n result) (h' : Search taken base name n result') :
    result = result' := by
  induction h with
  | found hfree =>
    cases h' with
    | found => rfl
    | next htaken => exact absurd htaken hfree
  | next htaken _ ih =>
    cases h' with
    | found hfree => exact absurd htaken hfree
    | next _ rest => exact ih rest

/-- A search passes over the numbers of the names that are taken. -/
theorem Search.of_least {n : Nat} (d : Nat) (htaken : name ∈ taken)
    (hleast : ∀ k, n ≤ k → k < n + d → Emission.numbered base k ∈ taken)
    (hfree : Emission.numbered base (n + d) ∉ taken) :
    Search taken base name n (Emission.numbered base (n + d)) := by
  induction d generalizing n name with
  | zero => exact .next htaken (.found hfree)
  | succ d ih =>
    have hn : Emission.numbered base n ∈ taken := hleast n (Nat.le_refl n) (by omega)
    have hsum : n + (d + 1) = n + 1 + d := by omega
    rw [hsum] at hleast hfree ⊢
    exact .next htaken (ih hn (fun k hk hlt => hleast k (by omega) hlt) hfree)

theorem namedAfter_freshName (taken : List String) (base : String) :
    NamedAfter taken base (freshName taken base) := by
  by_cases hbase : base ∈ taken
  · obtain ⟨n, hn, hname, hfree, hleast⟩ := freshName_least hbase
    rw [hname]
    exact .numbered hbase hn hfree hleast
  · rw [freshName_of_not_mem hbase]
    exact .plain hbase

/-- The search ends in a name after the base. -/
theorem NamedAfter.search (h : NamedAfter taken base name) : Search taken base base 2 name := by
  cases h with
  | plain hfree => exact .found hfree
  | numbered htaken hn hfree hleast =>
    obtain ⟨d, rfl⟩ := Nat.exists_eq_add_of_le hn
    exact .of_least d htaken hleast hfree

/-- The search ends, and in no other name. -/
theorem NamedAfter.search_iff (h : NamedAfter taken base name) {result : String} :
    Search taken base base 2 result ↔ result = name := by
  refine ⟨fun hresult => hresult.unique h.search, fun hresult => ?_⟩
  rw [hresult]
  exact h.search

/-- In which order names were taken does not matter. -/
theorem NamedAfter.congr (h : NamedAfter taken base name) (hsame : ∀ x, x ∈ taken ↔ x ∈ taken') :
    NamedAfter taken' base name := by
  cases h with
  | plain hfree => exact .plain (by rwa [← hsame])
  | numbered htaken hn hfree hleast =>
    refine .numbered ((hsame _).mp htaken) hn (by rwa [← hsame]) ?_
    exact fun k hk hlt => (hsame _).mp (hleast k hk hlt)

/-! ## Instances in order -/

section Holders

variable {c : SchemaClass} {classes : ClassMap} {packages : PackageMap}

/-- The superclasses are told in order, each with the reference to it. -/
theorem of_superclassReferences_eq_ok {refs : List (Uri × TypeReference)}
    (h : superclassReferences c packages = .ok refs) :
    refs.map Prod.fst = distinctSuperclasses c
      ∧ ∀ ref ∈ refs, superclassReference c packages ref.1 = .ok ref.2 := by
  unfold superclassReferences at h
  rw [mapM_eq_ok_iff_forall₂] at h
  generalize distinctSuperclasses c = superclasses at h
  induction h with
  | nil => exact ⟨rfl, fun ref href => by cases href⟩
  | cons hs _ ih =>
    obtain ⟨type, htype, rfl⟩ := map_eq_ok_iff.mp hs
    refine ⟨?_, List.forall_mem_cons.mpr ⟨htype, ih.2⟩⟩
    rw [List.map_cons, ih.1]

/-- An instance has the type and the definition at its place. Its name is given with those
of the instances before it taken. -/
theorem getElem?_holdersWith {refs : List (Uri × TypeReference)} :
    ∀ {taken : List String} {ds : List SchemaClass} {i : Nat} {h : Holder},
      (holdersWith taken refs ds)[i]? = some h →
        ∃ ref, refs[i]? = some ref ∧ h.type = ref.2 ∧ ds[i]? = some h.definition
          ∧ NamedAfter (taken ++ ((holdersWith taken refs ds).take i).map Holder.field)
              (instanceName ref.1) h.field := by
  induction refs with
  | nil =>
    intro taken ds i h hi
    cases hi
  | cons ref refs ih =>
    intro taken ds i h hi
    cases ds with
    | nil => cases hi
    | cons d ds =>
      rw [holdersWith] at hi ⊢
      cases i with
      | zero =>
        obtain rfl := Option.some.inj hi
        refine ⟨ref, rfl, rfl, rfl, ?_⟩
        rw [List.take_zero, List.map_nil, List.append_nil]
        exact namedAfter_freshName taken (instanceName ref.1)
      | succ i =>
        obtain ⟨ref', href, htype, hd, hnamed⟩ := ih hi
        refine ⟨ref', href, htype, hd, hnamed.congr fun x => ?_⟩
        rw [List.take_succ_cons, List.map_cons, List.mem_append, List.mem_append, List.mem_cons,
          List.mem_cons, or_assoc, or_left_comm]

/-- What is said of the instance that is held for a superclass when names are taken. -/
structure HeldFor (c : SchemaClass) (classes : ClassMap) (packages : PackageMap)
    (taken : List String) (s : Uri) (h : Holder) : Prop where
  definition : classes.find? s = some h.definition
  type : superclassReference c packages s = .ok h.type
  field : NamedAfter taken (instanceName s) h.field
  search : ∀ name, Search taken (instanceName s) (instanceName s) 2 name ↔ name = h.field

/-- The delegating layout holds one instance for each distinct superclass, in order. The
search for the name of its field ends, in the name of the superclass or with the least number
from 2 on, so that it is none of an own property or an earlier instance. No name is
given twice, and none is that of an own property. -/
theorem holders_named {hs : List Holder} (h : holders c classes packages = .ok hs) :
    hs.length = (distinctSuperclasses c).length
      ∧ (∀ i s holder, (distinctSuperclasses c)[i]? = some s → hs[i]? = some holder →
          HeldFor c classes packages
            (c.properties.map SchemaProperty.name ++ (hs.take i).map Holder.field) s holder)
      ∧ (hs.map Holder.field).Nodup
      ∧ List.Disjoint (c.properties.map SchemaProperty.name) (hs.map Holder.field) := by
  unfold holders at h
  obtain ⟨refs, hrefs, h⟩ := bind_eq_ok_iff.mp h
  obtain ⟨hsuperclasses, htypes⟩ := of_superclassReferences_eq_ok hrefs
  obtain ⟨ds, hds, rfl⟩ := holdersFrom_eq_ok_iff.mp h
  have hlength : refs.length = ds.length := by simpa using congrArg List.length hds
  have hfields : (holdersWith (c.properties.map SchemaProperty.name) refs ds).map Holder.field
      = freshNames (c.properties.map SchemaProperty.name)
          ((refs.map Prod.fst).map instanceName) := map_field_holdersWith hlength
  have hdefinitions : (holdersWith (c.properties.map SchemaProperty.name) refs ds).map
      Holder.definition = ds := map_definition_holdersWith hlength
  refine ⟨?_, ?_, ?_, ?_⟩
  · rw [← hsuperclasses, List.length_map, hlength]
    exact (List.length_map _).symm.trans (congrArg List.length hdefinitions)
  · intro i s holder hs hholder
    obtain ⟨ref, href, htype, hd, hnamed⟩ := getElem?_holdersWith hholder
    have hfirst : ref.1 = s := by
      rw [← hsuperclasses, List.getElem?_map, href] at hs
      exact Option.some.inj hs
    have hfind : classes.find? ref.1 = some holder.definition := by
      have hplace := congrArg (fun found => found[i]?) hds
      simp only [List.getElem?_map, href, hd, Option.map_some] at hplace
      exact Option.some.inj hplace
    rw [← hfirst]
    refine ⟨hfind, ?_, hnamed, fun name => hnamed.search_iff⟩
    rw [htype]
    exact htypes ref (List.mem_of_getElem? href)
  · rw [hfields]
    exact freshNames_nodup _ _
  · rw [hfields]
    exact fun name hown hfresh => not_mem_freshNames hfresh hown

end Holders

/-! ## Three persons

A student has two superclasses with the name of an own property, and a third one with the
name that the first of them gets. -/

def pupil : SchemaClass where
  uri := "http://works/Person"

def secondPerson : SchemaClass where
  uri := "http://people/Person2"

def student : SchemaClass where
  uri := "http://schools/Student"
  superclasses := [person.uri, pupil.uri, person.uri, "http://schools/Student", secondPerson.uri]
  properties := [{ uri := "http://schools/person" }]

def school : ClassMap :=
  .ofList ([student, person, pupil, secondPerson].map fun c => (c.uri, c))

def schoolPackages : PackageMap :=
  .ofList [(student.uri, "schools"), (person.uri, "people"), (pupil.uri, "works")]

theorem student_holders_named :
    ∃ hs, holders student school schoolPackages = .ok hs
      ∧ hs.map Holder.field = ["person2", "person3", "person22"]
      ∧ hs.length = 3
      ∧ (∀ holder, hs[2]? = some holder →
          HeldFor student school schoolPackages ["person", "person2", "person3"]
            secondPerson.uri holder)
      ∧ (hs.map Holder.field).Nodup
      ∧ List.Disjoint ["person"] (hs.map Holder.field) := by
  have hfields : (holders student school schoolPackages).map (List.map Holder.field)
      = .ok ["person2", "person3", "person22"] := by decide +kernel
  obtain ⟨hs, hrun, hnames⟩ := map_eq_ok_iff.mp hfields
  obtain ⟨hlength, hheld, hnodup, hdisjoint⟩ := holders_named hrun
  have hown : student.properties.map SchemaProperty.name = ["person"] := by decide +kernel
  rw [hown] at hheld hdisjoint
  refine ⟨hs, hrun, hnames, ?_, ?_, hnodup, hdisjoint⟩
  · rw [hlength]
    decide +kernel
  · intro holder hholder
    have hthird := hheld 2 secondPerson.uri holder (by decide +kernel) hholder
    rw [List.map_take, hnames] at hthird
    exact hthird

end Ontogen.Emission
