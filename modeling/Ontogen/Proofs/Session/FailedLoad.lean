import Ontogen.Proofs.Generation.Outcome
import Ontogen.Proofs.Session.Effects

/-!
# Loads that fail

A load gives the generator the classes of the graph before it looks for packages. When the
mapper has none for one of the URIs that are mentioned, the new classes stay, beside the
packages from before. Since a generator that knows classes does not load again, these are
what a later step writes with.

Main result: `Session.load_failed`. The generator is the one from before only if it had the
classes of the graph already. `opened_load_changes_classes` shows what that does to a session
that could still write its classes before the load.
-/

namespace Ontogen

open Data (OrderedMap map_eq_error_iff)
open Rdf.Vocabulary

namespace Session

variable {s : Session} {t : Step} {e : NamespaceError}

/-- A step that loads comes short of a package only in the load. -/
theorem load_eq_error_of_outcome (ht : t.Loads s.generator)
    (h : (s.step t).2.outcome = .error (.package e)) : s.load.2 = .error e := by
  cases hload : s.load.2 with
  | error e' =>
    rw [outcome_step_of_load_error ht hload] at h
    rw [Failure.package.inj (Except.error.inj h)]
  | ok _ =>
    rw [← load_quiet] at hload
    cases t with
    | loadClasses =>
      rw [outcome_step, perform, Data.run_bind, loadClasses_eq, hload] at h
      cases h
    | write target =>
      have hclasses : s.quiet.generator.classes.isEmpty = true := ht
      rw [outcome_step_write, map_eq_error_iff, writeTypes_of_load hclasses hload] at h
      dsimp only at h
      rcases Generator.write_eq_error h with ⟨_, _, h⟩ | ⟨_, _, _, _, h⟩
      · cases h
      · cases h
    | _ => exact ht.elim

/-- A step whose load fails does nothing but load. -/
theorem session_step_of_load_error (ht : t.Loads s.generator) (hload : s.load.2 = .error e) :
    (s.step t).1 = s.quiet.loaded := by
  cases t with
  | loadClasses => exact session_step_loadClasses s
  | write target =>
    rw [← load_quiet] at hload
    have hclasses : s.quiet.generator.classes.isEmpty = true := ht
    rw [session_step_write, writeTypes_of_load_error hclasses hload]
  | _ => exact ht.elim

/-- A load that fails leaves a generator with the classes of the graph and the packages that
it had, and it is the generator from before only if it had these classes. A later step that
writes does not load again: it takes the classes and the packages as they are. -/
theorem load_failed {u : Session} {g : Generator} (ht : t.Loads s.generator)
    (houtcome : (s.step t).2.outcome = .error (.package e)) (hu : u = (s.step t).1)
    (hg : g = { s.generator with classes := s.graph.loadClasses.classes }) :
    u.generator = g ∧ u.graph = s.graph ∧ u.workspace.files = s.workspace.files
      ∧ (∃ uri ∈ Generator.mentioned g.classes, g.mapper.packageFor uri = .error e)
      ∧ (u.generator = s.generator ↔ s.graph.loadClasses.classes = s.generator.classes)
      ∧ ∀ target, (u.step (.write target)).1.generator = g
        ∧ (u.step (.write target)).2.outcome
          = (g.write target u.quiet.workspace).1.map .written := by
  have hload := load_eq_error_of_outcome ht houtcome
  obtain ⟨hmap, hgenerator⟩ := Generator.load_eq_error hload
  obtain ⟨uri, huri, hpackage⟩ := PackageMapper.packageMap_eq_error hmap
  rw [session_step_of_load_error ht hload] at hu
  have hu' : u.generator = g := by rw [hu, hg]; exact hgenerator
  -- A URI without a package is mentioned by a class, so there are classes and no later step
  -- that writes loads again.
  have hclasses : u.generator.classes.isEmpty = false := by
    rw [hu', hg]
    show List.isEmpty _ = false
    rw [List.isEmpty_eq_false_iff]
    intro hnil
    rw [Generator.mentioned, OrderedMap.keys, OrderedMap.values, hnil] at huri
    cases huri
  refine ⟨hu', by rw [hu]; rfl, by rw [hu]; rfl, ⟨uri, ?_, ?_⟩, ?_, fun target => ⟨?_, ?_⟩⟩
  · rw [hg]
    exact huri
  · rw [hg]
    exact hpackage
  · rw [hu', hg]
    constructor
    · exact fun h => congrArg Generator.classes h
    · intro h
      rw [h]
  · rw [generator_step, Step.effect, hclasses]
    exact hu'
  · have hquiet : u.quiet.generator.classes.isEmpty = false := hclasses
    rw [outcome_step_write, writeTypes_of_classes hquiet, ← hu']
    rfl

end Session

/-! ## A load that fails in a session -/

namespace Zoo

/-- Dogs are loaded, and then there are cats for which no package can be told. -/
def opening : List Step :=
  [.add [⟨.uri "http://zoo/Dog", .uri rdfType, .uri owlClass⟩], .loadClasses,
    .add [⟨.uri "http://[zoo/Cat", .uri rdfType, .uri owlClass⟩]]

/-- The session of the dogs. -/
def opened : Session := (Session.ofOptions {}).after opening

theorem load_opened : opened.load.2 = .error ⟨"http://[zoo/"⟩ := by decide +kernel

theorem outcome_load_opened :
    (opened.step .loadClasses).2.outcome = .error (.package ⟨"http://[zoo/"⟩) :=
  Session.outcome_step_of_load_error (t := .loadClasses) True.intro load_opened

end Zoo

/-- The generator has the cats after the load has failed, and packages for dogs alone. -/
theorem opened_load_failed :
    (Zoo.opened.step .loadClasses).2.outcome = .error (.package ⟨"http://[zoo/"⟩)
      ∧ (Zoo.opened.step .loadClasses).1.generator.classes.keys
          = ["http://zoo/Dog", "http://[zoo/Cat"]
      ∧ (Zoo.opened.step .loadClasses).1.generator.packages.entries
          = [("http://zoo/Dog", "zoo")] := by
  obtain ⟨hgenerator, -⟩ :=
    Session.load_failed (t := .loadClasses) True.intro Zoo.outcome_load_opened rfl rfl
  rw [hgenerator]
  exact ⟨Zoo.outcome_load_opened, by decide +kernel, by decide +kernel⟩

/-- A load that fails changes the classes of the generator, and later steps come to something
else than without it: the dogs can be written before the load, and not after it. -/
theorem opened_load_changes_classes :
    (Zoo.opened.step .loadClasses).2.outcome = .error (.package ⟨"http://[zoo/"⟩)
      ∧ (Zoo.opened.step .loadClasses).1.generator.classes.keys
          ≠ Zoo.opened.generator.classes.keys
      ∧ (Zoo.opened.step (.write "out")).2.outcome = .ok (.written ["out/zoo/Dog.java"])
      ∧ ((Zoo.opened.step .loadClasses).1.step (.write "out")).2.outcome
          = .error (.emission (.missingPackage "http://[zoo/Cat")) := by
  have hbefore : (Session.writeTypes "out" Zoo.opened.quiet).1 = .ok ["out/zoo/Dog.java"] := by
    decide +kernel
  have hafter : (Session.writeTypes "out" (Zoo.opened.step .loadClasses).1.quiet).1
      = .error (.emission (.missingPackage "http://[zoo/Cat")) := by decide +kernel
  refine ⟨Zoo.outcome_load_opened, by decide +kernel, ?_, ?_⟩
  · rw [Session.outcome_step_write, hbefore]
    rfl
  · rw [Session.outcome_step_write, hafter]
    rfl

end Ontogen
