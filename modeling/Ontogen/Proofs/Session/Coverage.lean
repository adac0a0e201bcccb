import Ontogen.Proofs.Emission.Missing
import Ontogen.Proofs.Generation.Outcome
import Ontogen.Proofs.Schema.Classes
import Ontogen.Proofs.Session.Effects

/-!
# Packages that are kept up

A load gives every class and every superclass its package. Between loads classes are only
forgotten, so as long as no package is forgotten and packages are found at every load, the
packages of the generator cover its classes: each step keeps that (`Covers.effect`), and so
does every run from an empty session. Then nothing that is written lacks a package.

Main result: `Session.packages_cover`.
-/

namespace Ontogen

open Data (OrderedMap map_eq_error_iff)
open Emission (EmissionError Lacks)
open Rdf.Vocabulary

/-! ## Covered classes -/

/-- A class is entered under its URI, and it and its superclasses have packages. -/
structure IsCovered (packages : PackageMap) (e : Uri × SchemaClass) : Prop where
  uri_eq : e.2.uri = e.1
  class_mem : e.1 ∈ packages.keys
  superclass_mem : ∀ s ∈ e.2.superclasses, s ∈ packages.keys

namespace Generator

/-- All classes that a generator knows are covered by its packages. -/
def Covers (g : Generator) : Prop := ∀ e ∈ g.classes.entries, IsCovered g.packages e

theorem covers_empty {g : Generator} (h : g.classes = ∅) : g.Covers := by
  intro e he
  rw [h] at he
  cases he

/-- The keys are told in the order in which classes and superclasses are mentioned. -/
theorem eraseDups_mentioned (classes : ClassMap) :
    (mentioned classes).eraseDups = classes.keys
      ++ ((classes.values.flatMap SchemaClass.superclasses).filter
          fun s => !decide (s ∈ classes.keys)).eraseDups := by
  have hkeys : classes.keys.eraseDups = classes.keys :=
    Data.eraseDups_of_nodup classes.nodup_keys
  rw [mentioned, List.eraseDups_append, hkeys]
  simp only [List.removeAll, List.elem_eq_mem]

/-- A load for which packages are found enters those of the mapper for everything that the
classes of the graph mention, and nothing else. -/
theorem packages_load {g : Generator} {classes : ClassMap} (h : (g.load classes).2 = .ok ()) :
    (g.load classes).1.packages.keys = classes.keys
        ++ ((classes.values.flatMap SchemaClass.superclasses).filter
            fun s => !decide (s ∈ classes.keys)).eraseDups
      ∧ ∀ e ∈ (g.load classes).1.packages.entries, g.mapper.packageFor e.1 = .ok e.2 := by
  obtain ⟨packages, hmap, hload⟩ := load_eq_ok h
  obtain ⟨hkeys, hfind⟩ := PackageMapper.packageMap_eq_ok hmap
  rw [hload]
  refine ⟨hkeys.trans (eraseDups_mentioned classes), fun e he => ?_⟩
  exact hfind e.1 e.2 (OrderedMap.find?_eq_some_iff.mpr he)

/-- A load for which packages are found covers the classes of the graph. -/
theorem covers_load {g : Generator} {graph : Rdf.Graph}
    (h : (g.load graph.loadClasses.classes).2 = .ok ()) :
    (g.load graph.loadClasses.classes).1.Covers := by
  obtain ⟨packages, hmap, hload⟩ := load_eq_ok h
  obtain ⟨hkeys, -⟩ := PackageMapper.packageMap_eq_ok hmap
  have hmentioned : ∀ uri ∈ mentioned graph.loadClasses.classes, uri ∈ packages.keys := by
    intro uri huri
    rwa [hkeys, List.mem_eraseDups]
  rw [hload]
  intro e he
  refine ⟨?_, hmentioned _ ?_, fun s hs => hmentioned _ ?_⟩
  · have hfind := OrderedMap.find?_eq_some_iff.mpr he
    rw [Rdf.Graph.eq_classAt_of_find? hfind]
    rfl
  · exact List.mem_append_left _ (List.mem_map_of_mem he)
  · exact List.mem_append_right _
      (List.mem_flatMap.mpr ⟨e.2, List.mem_map_of_mem he, hs⟩)

/-- A step that forgets no package keeps classes covered, if packages are found when it
loads. -/
theorem Covers.effect {g : Generator} {graph : Rdf.Graph} {t : Step} (hg : g.Covers)
    (hkept : ∀ uri, t ≠ .dropPackage uri)
    (hload : t.Loads g → (g.load graph.loadClasses.classes).2 = .ok ()) :
    (t.effect graph g).Covers := by
  cases t with
  | loadClasses => exact covers_load (hload trivial)
  | write target =>
    by_cases hclasses : g.classes.isEmpty = true
    · rw [Step.effect, if_pos hclasses]
      exact covers_load (hload hclasses)
    · rw [Step.effect, if_neg hclasses]
      exact hg
  | clearClasses => exact covers_empty rfl
  | dropClass uri =>
    -- The classes that are left were there before.
    intro e he
    exact hg e (List.mem_of_mem_filter he)
  | dropPackage uri => exact absurd rfl (hkept uri)
  | add | remove | loadDocument | ask | showState | files | setOption | fixInOptions
  | fixInMapper => exact hg

/-- What a covered class lacks is no package. -/
theorem Covers.ne_missingPackage {g : Generator} {c : SchemaClass} {e : EmissionError}
    (hg : g.Covers) (hc : c ∈ g.classes.values) (h : Lacks c g.classes g.packages e)
    (uri : Uri) : e ≠ .missingPackage uri := by
  obtain ⟨entry, hentry, rfl⟩ := List.mem_map.mp hc
  have hcovered := hg entry hentry
  cases h with
  | package hpackage => exact absurd (hcovered.uri_eq ▸ hcovered.class_mem) hpackage
  | superclassPackage _ _ hs => exact absurd (hcovered.superclass_mem _ hs.mem) hs.1
  | definition => exact EmissionError.noConfusion

theorem Covers.write_ne_missingPackage {g : Generator} (hg : g.Covers) (target : String)
    (w : Workspace) (uri : Uri) :
    (g.write target w).1 ≠ .error (.emission (.missingPackage uri)) := by
  intro h
  rcases write_eq_error h with ⟨e, path, hfailure⟩ | ⟨c, hc, e, hlacks, hfailure⟩
  · cases hfailure
  · exact hg.ne_missingPackage hc hlacks uri (Failure.emission.inj hfailure).symm

end Generator

/-! ## Runs -/

namespace Session

/-- Writing of a session that is covered, or comes to be when it loads, never ends at a
package. -/
theorem writeTypes_ne_missingPackage {target : String} {s : Session}
    (hs : s.generator.Covers)
    (hload : s.generator.classes.isEmpty = true → s.load.2 = .ok ()) (uri : Uri) :
    (writeTypes target s).1 ≠ .error (.emission (.missingPackage uri)) := by
  cases hclasses : s.generator.classes.isEmpty with
  | true =>
    have hfound := hload hclasses
    have hloaded : s.loaded.generator.Covers := by
      rw [generator_loaded]
      exact Generator.covers_load hfound
    rw [writeTypes_of_load hclasses hfound]
    dsimp only
    exact hloaded.write_ne_missingPackage target _ uri
  | false =>
    rw [writeTypes_of_classes hclasses]
    dsimp only
    exact hs.write_ne_missingPackage target _ uri

/-- Packages are found at every load of a run in which no step comes short of one. -/
theorem load_eq_ok_of_loads {s : Session} {ts : List Step} {t : Step} {us : List Step}
    (hfound : ∀ r ∈ s.run (ts ++ t :: us), ∀ e, r.outcome ≠ .error (.package e))
    (ht : t.Loads (s.after ts).generator) : (s.after ts).load.2 = .ok () := by
  cases hload : (s.after ts).load.2 with
  | ok _ => rfl
  | error e =>
    exact absurd (outcome_step_of_load_error ht hload) (hfound _ (result_mem_run s ts t us) e)

theorem covers_after {s : Session} {ts : List Step} (hs : s.generator.Covers)
    (hkept : ∀ t ∈ ts, ∀ uri, t ≠ .dropPackage uri)
    (hfound : ∀ r ∈ s.run ts, ∀ e, r.outcome ≠ .error (.package e)) :
    (s.after ts).generator.Covers := by
  refine generator_after hs fun front t back hts hfront => hfront.effect ?_ ?_
  · refine hkept t ?_
    rw [hts]
    exact List.mem_append_right _ (List.mem_cons_self ..)
  · rw [hts] at hfound
    exact load_eq_ok_of_loads hfound

/-- In a session in which no package is dropped and no step comes short of one, the packages of
the generator cover its classes at all times. After a step that loads they are those that
the mapper tells for the classes and, after these, for their other superclasses. No step
that writes finds a package missing. -/
theorem packages_cover {options : GeneratorOptions} {steps : List Step}
    (hkept : ∀ t ∈ steps, ∀ uri, t ≠ .dropPackage uri)
    (hfound : ∀ r ∈ (ofOptions options).run steps, ∀ e, r.outcome ≠ .error (.package e)) :
    (∀ front back, steps = front ++ back → ((ofOptions options).after front).generator.Covers)
      ∧ (∀ front t back g, steps = front ++ t :: back →
          t.Loads ((ofOptions options).after front).generator →
          g = ((ofOptions options).after (front ++ [t])).generator →
          g.packages.keys = g.classes.keys
              ++ ((g.classes.values.flatMap SchemaClass.superclasses).filter
                  fun uri => !decide (uri ∈ g.classes.keys)).eraseDups
            ∧ ∀ e ∈ g.packages.entries, g.mapper.packageFor e.1 = .ok e.2)
      ∧ ∀ front target back uri, steps = front ++ .write target :: back →
          (((ofOptions options).after front).step (.write target)).2.outcome
            ≠ .error (.emission (.missingPackage uri)) := by
  have hcovers : ∀ front back, steps = front ++ back →
      ((ofOptions options).after front).generator.Covers := by
    intro front back hsteps
    subst hsteps
    refine covers_after (Generator.covers_empty rfl) ?_ ?_
    · exact fun t ht => hkept t (List.mem_append_left _ ht)
    · rw [run_append] at hfound
      exact fun r hr => hfound r (List.mem_append_left _ hr)
  refine ⟨hcovers, ?_, ?_⟩
  · intro front t back g hsteps ht hg
    rw [hsteps] at hfound
    have hload := load_eq_ok_of_loads hfound ht
    have hstep : (ofOptions options).after (front ++ [t])
        = (((ofOptions options).after front).step t).1 := after_append _ front [t]
    rw [hg, hstep, generator_step, Step.effect_of_loads ht, Generator.load_classes,
      Generator.load_mapper]
    exact Generator.packages_load hload
  · intro front target back uri hsteps houtcome
    have hcovered := hcovers front _ hsteps
    rw [hsteps] at hfound
    have hload := load_eq_ok_of_loads (t := .write target) hfound
    generalize (ofOptions options).after front = s at hcovered hload houtcome
    rw [outcome_step_write] at houtcome
    exact writeTypes_ne_missingPackage (s := s.quiet) hcovered hload uri
      (map_eq_error_iff.mp houtcome)

instance (r : StepResult) : Decidable (∀ e, r.outcome ≠ .error (.package e)) :=
  match r.outcome with
  | .ok _ => isTrue fun _ h => by cases h
  | .error (.package e) => isFalse fun h => h e rfl
  | .error (.emission _) | .error (.file ..) | .error (.ontology _) | .error (.unreadable _)
  | .error (.broken ..) | .error (.absent _) | .error .packageNotGiven
  | .error (.unreachable _) => isTrue fun _ h => by cases h

end Session

/-! ## A session with changes between loads -/

namespace Zoo

/-- Classes are loaded; then one of them is dropped and a package is fixed before types are
written. -/
def visit : List Step :=
  [.add [⟨.uri "http://zoo/Dog", .uri rdfType, .uri owlClass⟩,
      ⟨.uri "http://zoo/Cat", .uri rdfType, .uri rdfsClass⟩,
      ⟨.uri "http://zoo/Cat", .uri rdfsSubClassOf, .uri "http://wild/Feline"⟩],
    .loadClasses, .dropClass "http://zoo/Dog", .fixInMapper "http://zoo/" "park", .write "out"]

end Zoo

theorem visit_packages_cover :
    (∀ t ∈ Zoo.visit, ∀ uri, t ≠ .dropPackage uri)
      ∧ (∀ r ∈ (Session.ofOptions {}).run Zoo.visit, ∀ e, r.outcome ≠ .error (.package e))
      ∧ ((Session.ofOptions {}).after Zoo.visit).generator.Covers
      ∧ ((Session.ofOptions {}).after (Zoo.visit.take 2)).generator.packages.keys
          = ["http://zoo/Dog", "http://zoo/Cat", "http://wild/Feline"]
      ∧ ∀ uri, (((Session.ofOptions {}).after (Zoo.visit.take 4)).step (.write "out")).2.outcome
          ≠ .error (.emission (.missingPackage uri)) := by
  have hkept : ∀ t ∈ Zoo.visit, ∀ uri, t ≠ .dropPackage uri := by simp [Zoo.visit]
  have hfound : ∀ r ∈ (Session.ofOptions {}).run Zoo.visit,
      ∀ e, r.outcome ≠ .error (.package e) := by decide +kernel
  obtain ⟨hcovers, hload, hwrite⟩ := Session.packages_cover hkept hfound
  refine ⟨hkept, hfound, ?_, ?_, fun uri => ?_⟩
  · exact hcovers Zoo.visit [] rfl
  · have hloaded := hload (Zoo.visit.take 1) .loadClasses (Zoo.visit.drop 2) _ rfl True.intro rfl
    rw [show Zoo.visit.take 2 = Zoo.visit.take 1 ++ [.loadClasses] from rfl, hloaded.1]
    decide +kernel
  · exact hwrite (Zoo.visit.take 4) "out" [] uri rfl

end Ontogen
