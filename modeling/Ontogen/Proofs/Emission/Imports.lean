import Ontogen.Proofs.Emission.Missing
import Ontogen.Proofs.Emission.References

/-!
# Imports of an implementation

The packages that are imported for superclasses are a set: those of the superclasses without
the own one, as a strictly ascending list. Such a list is told by its members
(`eq_of_pairwise_lt`), so neither the order nor the repetitions of the superclasses show in it,
and it is of no account whether a class lists itself. In front of these imports there may be that
of the own package and that of the annotation.

Main result: `imports_ascend`.
-/

namespace Ontogen.Emission

open Source (CompilationUnit)
open Data

variable {c : SchemaClass} {classes : ClassMap} {packages : PackageMap}

/-! ## Ascending lists -/

theorem nodup_of_pairwise_lt {xs : List String} (h : xs.Pairwise (· < ·)) : xs.Nodup := by
  refine h.imp fun hlt heq => ?_
  subst heq
  exact String.lt_irrefl _ hlt

/-- Strictly ascending texts are told by their members. -/
theorem eq_of_pairwise_lt {xs ys : List String} (hxs : xs.Pairwise (· < ·))
    (hys : ys.Pairwise (· < ·)) (h : ∀ x, x ∈ xs ↔ x ∈ ys) : xs = ys := by
  refine List.Perm.eq_of_pairwise ?_ hxs hys ?_
  · intro x y _ _ hlt hgt
    exact absurd (String.lt_trans hlt hgt) (String.lt_irrefl x)
  · exact (List.perm_ext_iff_of_nodup (nodup_of_pairwise_lt hxs) (nodup_of_pairwise_lt hys)).mpr h

/-! ## Packages of superclasses -/

/-- The packages to import for the superclasses of a class in the package `own`: all of theirs
but `own`, strictly ascending. -/
structure AreImported (c : SchemaClass) (packages : PackageMap) (own : String)
    (theirs : List String) : Prop where
  ascending : theirs.Pairwise (· < ·)
  mem_iff : ∀ p, p ∈ theirs ↔ p ≠ own ∧ ∃ s ∈ c.superclasses, packages.find? s = some p

theorem AreImported.nodup {own : String} {theirs : List String}
    (h : AreImported c packages own theirs) : (own :: theirs).Nodup := by
  rw [List.nodup_cons]
  constructor
  · intro hmem
    exact ((h.mem_iff own).mp hmem).1 rfl
  · exact nodup_of_pairwise_lt h.ascending

theorem mem_iff_of_map_find? {theirs : List String}
    (h : c.superclasses.map packages.find? = theirs.map some) (p : String) :
    p ∈ theirs ↔ ∃ s ∈ c.superclasses, packages.find? s = some p := by
  have hmem : p ∈ theirs ↔ some p ∈ theirs.map some := by simp
  rw [hmem, ← h, List.mem_map]

/-- With packages for a class and its superclasses it is known what to import. -/
theorem exists_superclassPackages {own : String} (hown : packages.find? c.uri = some own)
    (hcover : ∀ s ∈ c.superclasses, s ∈ packages.keys) :
    ∃ theirs, superclassPackages c packages = .ok theirs ∧ AreImported c packages own theirs := by
  obtain ⟨theirs, hfound⟩ := OrderedMap.exists_map_find?_eq hcover
  refine ⟨_, superclassPackages_eq_ok_of_find? hown hfound, ?_, ?_⟩
  · exact (pairwise_ascending theirs).filter _
  · intro p
    rw [List.mem_filter, mem_ascending, mem_iff_of_map_find? hfound, and_comm]
    simp

/-- What is imported for superclasses shows only which other classes they are. -/
theorem AreImported.congr {own : String} {theirs theirs' : List String} {c' : SchemaClass}
    (h : AreImported c packages own theirs) (h' : AreImported c' packages own theirs')
    (hown : packages.find? c.uri = some own)
    (hsame : ∀ s, s ≠ c.uri → (s ∈ c'.superclasses ↔ s ∈ c.superclasses)) :
    theirs' = theirs := by
  refine eq_of_pairwise_lt h'.ascending h.ascending fun p => ?_
  rw [h.mem_iff, h'.mem_iff]
  refine and_congr_right fun hp => exists_congr fun s => ?_
  -- A class that lists itself adds the own package, which is left out.
  by_cases hs : s = c.uri
  · subst hs
    rw [hown]
    simp [Ne.symm hp]
  · rw [hsame s hs]

/-! ## Imports as they are written -/

theorem imports_unit_implementation (r : Resolution c classes packages)
    (options : EmissionOptions) :
    (r.implementation options).unit.imports
      = (if options.separate then [wildcard r.package] else [])
        ++ (if options.annotate then [options.annotationImport] else [])
        ++ r.importedPackages.map wildcard := by
  show (implementationImports options r.package r.importedPackages).map Import.text = _
  rw [implementationImports, List.map_append, List.map_append, List.map_map]
  cases options.separate <;> cases options.annotate <;> rfl

/-- With packages for a class and its superclasses, the packages that are imported for these are
known: those of the superclasses other than the own one, strictly ascending by code points. They
are the same for every class that has the same URI and, itself apart, the same superclasses, in
any order and number. An implementation imports them after its own package, when it is separate,
and the annotation, when it has any; no package is imported twice. -/
theorem imports_ascend (hcover : ∀ u ∈ c.uri :: c.superclasses, u ∈ packages.keys) :
    ∃ own theirs, packages.find? c.uri = some own
      ∧ superclassPackages c packages = .ok theirs
      ∧ theirs.Pairwise (fun p q => p.toList < q.toList)
      ∧ (∀ p, p ∈ theirs ↔ p ≠ own ∧ ∃ s ∈ c.superclasses, packages.find? s = some p)
      ∧ (∀ c' : SchemaClass, c'.uri = c.uri →
          (∀ s, s ≠ c.uri → (s ∈ c'.superclasses ↔ s ∈ c.superclasses)) →
          superclassPackages c' packages = .ok theirs)
      ∧ ∀ options classes t, implementationOf options c classes packages = .ok (some t) →
          t.unit.imports
              = (if options.separate then [wildcard own] else [])
                ++ (if options.annotate then [options.annotationImport] else [])
                ++ theirs.map wildcard
            ∧ ((if options.separate then [wildcard own] else []) ++ theirs.map wildcard).Nodup := by
  obtain ⟨hself, hsuperclasses⟩ := List.forall_mem_cons.mp hcover
  obtain ⟨own, hown⟩ := OrderedMap.mem_keys_iff.mp hself
  obtain ⟨theirs, hok, himported⟩ := exists_superclassPackages hown hsuperclasses
  refine ⟨own, theirs, hown, hok, himported.ascending, himported.mem_iff, ?_, ?_⟩
  · intro c' huri hsame
    have hown' : packages.find? c'.uri = some own := by rw [huri, hown]
    have hcover' : ∀ s ∈ c'.superclasses, s ∈ packages.keys := by
      intro s hs
      by_cases heq : s = c.uri
      · rw [heq]
        exact hself
      · exact hsuperclasses s ((hsame s heq).mp hs)
    obtain ⟨theirs', hok', himported'⟩ := exists_superclassPackages hown' hcover'
    rw [hok', himported.congr himported' hown hsame]
  · intro options classes t ht
    obtain ⟨-, r, rfl⟩ := implementationOf_eq_ok_some_iff.mp ht
    have hpackage : r.package = own := Option.some.inj (r.find?_package.symm.trans hown)
    have htheirs : r.importedPackages = theirs :=
      Except.ok.inj (r.superclassPackages_eq_ok.symm.trans hok)
    rw [imports_unit_implementation, hpackage, htheirs]
    refine ⟨rfl, ?_⟩
    have hnodup : (wildcard own :: theirs.map wildcard).Nodup :=
      himported.nodup.map fun _ _ => wildcard_inj.mp
    split
    next => exact hnodup
    next => exact (List.nodup_cons.mp hnodup).2

/-- The guide with the superclasses in another order and number, and without itself. -/
def rearrangedGuide : SchemaClass where
  uri := guide.uri
  superclasses := ["http://trips/Leader", "http://works/Person", "http://trips/Guide",
    "http://works/Person", "http://people/Person"]

/-- Definitions of the superclasses of the guide. -/
def guideClasses : ClassMap :=
  .ofList (guide.superclasses.map fun s => (s, { uri := s }))

theorem guide_imports_ascend :
    (∀ u ∈ guide.uri :: guide.superclasses, u ∈ guidePackages.keys)
      ∧ superclassPackages guide guidePackages = .ok ["", "trips", "works.Person"]
      ∧ (∀ s, s ≠ guide.uri → (s ∈ rearrangedGuide.superclasses ↔ s ∈ guide.superclasses))
      ∧ superclassPackages rearrangedGuide guidePackages = .ok ["", "trips", "works.Person"]
      ∧ ∃ t, implementationOf { annotate := true, separate := true } guide guideClasses
          guidePackages = .ok (some t)
        ∧ t.unit.imports = ["zoo.*", "org.openimaj.rdf.serialize.Predicate", ".*", "trips.*",
            "works.Person.*"] := by
  have hcover : ∀ u ∈ guide.uri :: guide.superclasses, u ∈ guidePackages.keys := by
    decide +kernel
  have htheirs : superclassPackages guide guidePackages = .ok ["", "trips", "works.Person"] := by
    decide +kernel
  have hsame : ∀ s, s ≠ guide.uri →
      (s ∈ rearrangedGuide.superclasses ↔ s ∈ guide.superclasses) := by
    intro s hs
    simp only [rearrangedGuide, guide, List.mem_cons, List.not_mem_nil] at hs ⊢
    tauto
  have hown : guidePackages.find? guide.uri = some "zoo" := by decide +kernel
  obtain ⟨own, theirs, hown', hok, -, -, hcongr, himports⟩ := imports_ascend hcover
  obtain rfl := Except.ok.inj (hok.symm.trans htheirs)
  obtain rfl := Option.some.inj (hown'.symm.trans hown)
  have hcomplete : IsComplete guide guideClasses guidePackages := by
    refine ⟨by decide +kernel, fun _ => (List.forall_mem_cons.mp hcover).2, fun _ => ?_⟩
    decide +kernel
  obtain ⟨r⟩ := hcomplete.exists_resolution (by decide)
  have ht := r.implementationOf_eq_ok { annotate := true, separate := true } (by decide)
  exact ⟨hcover, htheirs, hsame, hcongr rearrangedGuide rfl hsame, _, ht,
    (himports _ _ _ ht).1⟩

end Ontogen.Emission
