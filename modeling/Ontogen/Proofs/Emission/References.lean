import Ontogen.Proofs.Emission.Scope
import Ontogen.Proofs.Text.Cut

/-!
# References as they are written

A header lists the interface of a class and those of its superclasses. A superclass is
written by its simple name when no other class around has it, and with its package in front
when one has. The packages are any texts, so a simple name and one with a package may look
alike only if names have points. They have none (`Source.TypeReference.text_inj`), and so no
entry is there twice unless two classes have both package and name in common.

Main result: `references_written`.
-/

namespace Ontogen

/-! ## Reading a reference back -/

namespace Source

theorem toList_qualified (package name : String) :
    (package ++ "." ++ name).toList = package.toList ++ '.' :: name.toList :=
  Text.toList_between rfl package name

theorem ne_qualified {name : String} (h : '.' ∉ name.toList) (package other : String) :
    name ≠ package ++ "." ++ other := by
  intro heq
  rw [heq, toList_qualified] at h
  exact h (by simp)

/-- References to names without points that read the same are the same. -/
theorem TypeReference.text_inj {r r' : TypeReference} (hr : '.' ∉ r.name.toList)
    (hr' : '.' ∉ r'.name.toList) (h : r.text = r'.text) : r = r' := by
  obtain ⟨package, name⟩ := r
  obtain ⟨package', name'⟩ := r'
  cases package with
  | none =>
    cases package' with
    | none => exact congrArg (TypeReference.mk none) h
    | some q => exact absurd h (ne_qualified hr q name')
  | some p =>
    cases package' with
    | none => exact absurd h.symm (ne_qualified hr' p name)
    | some q =>
      have hlist := congrArg String.toList h
      unfold TypeReference.text at hlist
      rw [toList_qualified, toList_qualified] at hlist
      obtain ⟨hp, hn⟩ := Text.eq_of_append_cons_eq hr hr' hlist
      obtain rfl := String.toList_inj.mp hp
      obtain rfl : name = name' := String.toList_inj.mp hn
      rfl

end Source

namespace Emission

open Source (TypeReference typeName)
open Data

variable {c : SchemaClass} {classes : ClassMap} {packages : PackageMap}

/-! ## Superclasses in order -/

/-- The distinct superclasses come in the order of their first declarations. -/
theorem pairwise_idxOf_distinctSuperclasses (c : SchemaClass) :
    (distinctSuperclasses c).Pairwise
      fun s t => c.superclasses.idxOf s < c.superclasses.idxOf t :=
  (pairwise_idxOf_eraseDups c.superclasses).filter _

/-! ## Texts of references -/

theorem point_not_mem_typeName (uri : Uri) : '.' ∉ (typeName uri).toList :=
  Source.not_mem_identifier (by decide) _

/-- How a class is written in a header: by its simple name exactly when no other one of the
class of the header and its superclasses has this name, and else with its package in front. -/
structure IsWritten (c : SchemaClass) (packages : PackageMap) (u : Uri) (text : String) :
    Prop where
  simple_iff : text = typeName u ↔ NamedAlone c u
  qualified : ¬ NamedAlone c u →
    ∃ package, packages.find? u = some package ∧ text = package ++ "." ++ typeName u

theorem RefersTo.isWritten {u : Uri} {package : String} {ref : TypeReference}
    (h : RefersTo c package u ref) (hpackage : packages.find? u = some package) :
    IsWritten c packages u ref.text := by
  rcases h with ⟨halone, rfl⟩ | ⟨halone, rfl⟩
  · exact ⟨iff_of_true rfl halone, fun hnot => absurd halone hnot⟩
  · have hne : typeName u ≠ package ++ "." ++ typeName u :=
      Source.ne_qualified (point_not_mem_typeName u) package (typeName u)
    exact ⟨iff_of_false hne.symm halone, fun _ => ⟨package, hpackage, rfl⟩⟩

theorem RefersTo.name_eq {u : Uri} {package : String} {ref : TypeReference}
    (h : RefersTo c package u ref) : ref.name = typeName u := by
  rcases h with ⟨-, rfl⟩ | ⟨-, rfl⟩
  · rfl
  · rfl

/-- Two classes that are written in the same way have the same name, and if they are not one
class they have the same package. -/
theorem RefersTo.eq_or_package_eq {u v : Uri} {p q : String} {r r' : TypeReference}
    (hr : RefersTo c p u r) (hr' : RefersTo c q v r')
    (hv : v ∈ c.uri :: distinctSuperclasses c) (h : r.text = r'.text) :
    u = v ∨ p = q ∧ typeName u = typeName v := by
  have hname : '.' ∉ r.name.toList := by
    rw [hr.name_eq]
    exact point_not_mem_typeName u
  have hname' : '.' ∉ r'.name.toList := by
    rw [hr'.name_eq]
    exact point_not_mem_typeName v
  have heq := TypeReference.text_inj hname hname' h
  have hnames : typeName u = typeName v := by rw [← hr.name_eq, ← hr'.name_eq, heq]
  have hpackages : r.package = r'.package := congrArg TypeReference.package heq
  rcases hr with ⟨halone, rfl⟩ | ⟨-, rfl⟩
  · exact .inl (halone v hv hnames.symm).symm
  · rcases hr' with ⟨-, rfl⟩ | ⟨-, rfl⟩
    · exact absurd hpackages (Option.some_ne_none p)
    · exact .inr ⟨Option.some.inj hpackages, hnames⟩

/-! ## Entries of a header -/

/-- Packages and names of a class and its superclasses. -/
def placesOf (c : SchemaClass) (packages : PackageMap) : List (Option String × String) :=
  (c.uri :: distinctSuperclasses c).map fun u => (packages.find? u, typeName u)

/-- Classes that differ in package or name are not written in the same way. -/
theorem RefersTo.eq_of_text_eq {u v : Uri} {p q : String} {r r' : TypeReference}
    (hplaces : (placesOf c packages).Nodup) (hu : u ∈ c.uri :: distinctSuperclasses c)
    (hv : v ∈ c.uri :: distinctSuperclasses c) (hp : packages.find? u = some p)
    (hq : packages.find? v = some q) (hr : RefersTo c p u r) (hr' : RefersTo c q v r')
    (h : r.text = r'.text) : u = v := by
  rcases hr.eq_or_package_eq hr' hv h with h | ⟨hpackage, hname⟩
  · exact h
  · refine List.inj_on_of_nodup_map hplaces hu hv ?_
    show (packages.find? u, typeName u) = (packages.find? v, typeName v)
    rw [hp, hq, hpackage, hname]

/-- No entry is there twice when the classes differ in package or name. -/
theorem nodup_entries (hcover : ∀ u ∈ c.uri :: distinctSuperclasses c, u ∈ packages.keys)
    (hplaces : (placesOf c packages).Nodup) :
    ((referenceToSelf c packages :: (distinctSuperclasses c).map
      (referenceTo c packages)).map TypeReference.text).Nodup := by
  have hself : c.uri ∈ c.uri :: distinctSuperclasses c := List.mem_cons_self ..
  obtain ⟨p, hp⟩ := OrderedMap.mem_keys_iff.mp (hcover c.uri hself)
  have hreference : ∀ s ∈ distinctSuperclasses c, ∃ q, packages.find? s = some q
      ∧ RefersTo c q s (referenceTo c packages s) := by
    intro s hs
    obtain ⟨q, hq⟩ := OrderedMap.mem_keys_iff.mp (hcover s (List.mem_cons_of_mem _ hs))
    exact ⟨q, hq, refersTo_referenceTo hs hq⟩
  rw [List.map_cons, List.nodup_cons]
  constructor
  · intro hmem
    obtain ⟨ref, hmem, htext⟩ := List.mem_map.mp hmem
    obtain ⟨s, hs, rfl⟩ := List.mem_map.mp hmem
    obtain ⟨q, hq, href⟩ := hreference s hs
    have hown : RefersTo c p c.uri (referenceToSelf c packages) := refersTo_referenceToSelf hp
    have heq : s = c.uri :=
      href.eq_of_text_eq hplaces (List.mem_cons_of_mem _ hs) hself hq hp hown htext
    rw [heq] at hs
    exact self_not_mem_distinctSuperclasses c hs
  · rw [List.map_map]
    refine List.Nodup.map_on ?_ (distinctSuperclasses_nodup c)
    intro s hs t ht htext
    rw [Function.comp_apply, Function.comp_apply] at htext
    obtain ⟨q, hq, href⟩ := hreference s hs
    obtain ⟨q', hq', href'⟩ := hreference t ht
    exact href.eq_of_text_eq hplaces (List.mem_cons_of_mem _ hs) (List.mem_cons_of_mem _ ht)
      hq hq' href' htext

/-- With packages for a class and its superclasses, references are there for exactly the
superclasses other than the class itself, each once and in order of declaration. They and
the reference to the class itself are the entries of the header of its implementation, and
each entry is written as a simple name exactly when no other class around has the name. No
entry is there twice when no two of the classes have both package and name in common. -/
theorem references_written (hcover : ∀ u ∈ c.uri :: c.superclasses, u ∈ packages.keys) :
    ∃ refs own, superclassReferences c packages = .ok refs
      ∧ ownReference c packages = .ok own
      ∧ (∀ s, s ∈ refs.map Prod.fst ↔ s ∈ c.superclasses ∧ s ≠ c.uri)
      ∧ (refs.map Prod.fst).Pairwise
          (fun s t => c.superclasses.idxOf s < c.superclasses.idxOf t)
      ∧ (∀ ref ∈ refs, IsWritten c packages ref.1 ref.2.text)
      ∧ IsWritten c packages c.uri own.text
      ∧ (∀ options classes t, implementationOf options c classes packages = .ok (some t) →
          t.header = .implementation (typeName c.uri) (own :: refs.map Prod.snd))
      ∧ ((placesOf c packages).Nodup →
          ((own :: refs.map Prod.snd).map TypeReference.text).Nodup) := by
  obtain ⟨hown, htheirs⟩ := List.forall_mem_cons.mp hcover
  obtain ⟨package, hpackage⟩ := OrderedMap.mem_keys_iff.mp hown
  obtain ⟨theirs, hfound⟩ := OrderedMap.exists_map_find?_eq htheirs
  refine ⟨namedReferences c packages, referenceToSelf c packages,
    superclassReferences_eq_ok hfound, ownReference_eq_ok hpackage, ?_, ?_, ?_, ?_, ?_, ?_⟩
  · intro s
    rw [map_fst_namedReferences]
    exact mem_distinctSuperclasses
  · rw [map_fst_namedReferences]
    exact pairwise_idxOf_distinctSuperclasses c
  · intro ref href
    obtain ⟨s, hs, rfl⟩ := List.mem_map.mp href
    obtain ⟨p, hp⟩ := OrderedMap.mem_keys_iff.mp (htheirs s (mem_distinctSuperclasses.mp hs).1)
    exact (refersTo_referenceTo hs hp).isWritten hp
  · exact (refersTo_referenceToSelf hpackage).isWritten hpackage
  · intro options classes t ht
    obtain ⟨-, r, rfl⟩ := implementationOf_eq_ok_some_iff.mp ht
    rw [map_snd_namedReferences]
    rfl
  · intro hplaces
    rw [map_snd_namedReferences]
    refine nodup_entries ?_ hplaces
    refine List.forall_mem_cons.mpr ⟨hown, fun s hs => ?_⟩
    exact htheirs s (mem_distinctSuperclasses.mp hs).1

/-- A guide to a zoo has two persons and a guide of another kind among the superclasses, one
of the persons twice, and declares itself as well. -/
def guide : SchemaClass where
  uri := "http://zoo/Guide"
  superclasses := ["http://people/Person", "http://works/Person", "http://zoo/Guide",
    "http://people/Person", "http://trips/Guide", "http://trips/Leader"]
  properties := [{ uri := "http://zoo/animal" }]

/-- Packages with no text and with a point in it are among those around the guide. -/
def guidePackages : PackageMap :=
  .ofList [("http://zoo/Guide", "zoo"), ("http://people/Person", ""),
    ("http://works/Person", "works.Person"), ("http://trips/Guide", "trips"),
    ("http://trips/Leader", "trips")]

theorem guide_references_written :
    (∀ u ∈ guide.uri :: guide.superclasses, u ∈ guidePackages.keys)
      ∧ (placesOf guide guidePackages).Nodup
      ∧ ∃ refs own, superclassReferences guide guidePackages = .ok refs
        ∧ ownReference guide guidePackages = .ok own
        ∧ ((own :: refs.map Prod.snd).map TypeReference.text)
          = ["zoo.Guide", ".Person", "works.Person.Person", "trips.Guide", "Leader"]
        ∧ (∀ ref ∈ refs, IsWritten guide guidePackages ref.1 ref.2.text)
        ∧ ((own :: refs.map Prod.snd).map TypeReference.text).Nodup := by
  have hcover : ∀ u ∈ guide.uri :: guide.superclasses, u ∈ guidePackages.keys := by
    decide +kernel
  have hplaces : (placesOf guide guidePackages).Nodup := by decide +kernel
  obtain ⟨refs, own, hrefs, hown, -, -, hwritten, -, -, hnodup⟩ := references_written hcover
  have htexts : ((ownReference guide guidePackages).bind fun own =>
      (superclassReferences guide guidePackages).map fun refs =>
        (own :: refs.map Prod.snd).map TypeReference.text)
      = .ok ["zoo.Guide", ".Person", "works.Person.Person", "trips.Guide", "Leader"] := by
    decide +kernel
  rw [hown, hrefs] at htexts
  exact ⟨hcover, hplaces, refs, own, hrefs, hown, Except.ok.inj htexts, hwritten,
    hnodup hplaces⟩

end Emission

end Ontogen
