import Ontogen.Proofs.Session.Effects

/-!
# Options for packages that are set too late

A generator takes the base package and the fixed packages of its options when it is made. Its
mapper has them from then on, and only packages that are fixed in the mapper itself change
how packages are found (`Session.mapper_after`). The options stay where they were and can be
set at any time, but nothing reads them any more: what a session does ignores them
(`IgnoresPackaging`), action by action and so step by step.

Main result: `Session.packaging_unseen`. Two runs that differ in nothing but the steps that set
these options are the same run to every other step.
-/

namespace Ontogen

open Data (run_bind run_get_bind)
open Rdf.Vocabulary

/-! ## Steps that set options for packages -/

namespace Step

/-- The step sets an option that tells how packages are found. -/
def setsPackaging : Step → Bool
  | .setOption (.basePackage _) => true
  | .setOption (.overrides _) => true
  | .fixInOptions _ _ => true
  | _ => false

/-- The package that a step fixes in the mapper, with its namespace. -/
def fixed? : Step → Option (String × String)
  | .fixInMapper ns package => some (ns, package)
  | _ => none

end Step

/-! ## How packages are found -/

namespace PackageMapper

/-- The mapper with more packages fixed, one after the other. -/
def fix (m : PackageMapper) (fixed : List (String × String)) : PackageMapper :=
  { m with overrides := fixed.foldl (fun overrides e => overrides.insert e.1 e.2) m.overrides }

theorem fix_append (m : PackageMapper) (front back : List (String × String)) :
    m.fix (front ++ back) = (m.fix front).fix back := by
  rw [fix, List.foldl_append]
  rfl

end PackageMapper

/-- A step changes the mapper by the package that it fixes in it, and in no other way. -/
theorem Step.mapper_effect (t : Step) (graph : Rdf.Graph) (g : Generator) :
    (t.effect graph g).mapper = g.mapper.fix t.fixed?.toList := by
  cases t with
  -- To fix nothing leaves the mapper as it is.
  | loadClasses =>
    rw [Step.effect, Generator.load_mapper]
    rfl
  | write target =>
    rw [Step.effect]
    split
    · exact Generator.load_mapper ..
    · rfl
  | _ => rfl

/-- After some steps the mapper is the one from before with the packages that these fixed in
it. -/
theorem Session.mapper_after (s : Session) (ts : List Step) :
    (s.after ts).generator.mapper = s.generator.mapper.fix (ts.filterMap Step.fixed?) := by
  induction ts generalizing s with
  | nil => rfl
  | cons t ts ih =>
    rw [after, ih, generator_step, Step.mapper_effect, ← PackageMapper.fix_append]
    cases hfixed : t.fixed? with
    | none => rw [List.filterMap_cons_none hfixed, Option.toList_none, List.nil_append]
    | some e =>
      rw [List.filterMap_cons_some hfixed, Option.toList_some, List.singleton_append]

/-! ## Sessions without the options for packages -/

/-- The generator without its options for packages. -/
def Generator.unpackaged (g : Generator) : Generator :=
  { g with options := { g.options with basePackage := none, overrides := ∅ } }

/-- The session with a generator that has no options for packages. -/
def Session.unpackaged (s : Session) : Session := { s with generator := s.generator.unpackaged }

theorem Generator.load_unpackaged (g : Generator) (classes : ClassMap) :
    g.unpackaged.load classes = ((g.load classes).1.unpackaged, (g.load classes).2) := by
  have hmapper : g.unpackaged.mapper = g.mapper := rfl
  rw [load, load, hmapper]
  cases g.mapper.packageMap (mentioned classes) <;> rfl

theorem Generator.write_unpackaged (g : Generator) (target : String) :
    g.unpackaged.write target = g.write target := rfl

namespace Session

variable {α β : Type}

/-- What is done in a session ignores the options for packages: it comes to the same without
them, and leaves the same session but for them. -/
def IgnoresPackaging (x : SessionAction α) : Prop :=
  ∀ s, x s.unpackaged = ((x s).1, (x s).2.unpackaged)

theorem IgnoresPackaging.bind {x : SessionAction α} {f : α → SessionAction β}
    (hx : IgnoresPackaging x) (hf : ∀ a, IgnoresPackaging (f a)) :
    IgnoresPackaging (x >>= f) := by
  intro s
  rw [run_bind, run_bind, hx]
  rcases x s with ⟨_ | a, u⟩
  · rfl
  · exact hf a u

theorem ignoresPackaging_loadDocument (path : String) (format : Option DocumentFormat) :
    IgnoresPackaging (loadDocument path format) := by
  intro s
  cases hdocument : s.workspace.document? path with
  | error failure =>
    rw [loadDocument_of_missing hdocument, loadDocument_of_missing (s := s.unpackaged) hdocument]
  | ok text =>
    rcases hreading : s.reading path format text with ⟨triples, _ | fault⟩
    · have hextended : s.unpackaged.extended triples = (s.extended triples).unpackaged := rfl
      rw [loadDocument_of_no_fault hdocument hreading,
        loadDocument_of_no_fault (s := s.unpackaged) hdocument hreading, hextended]
      -- What is told is the size of the graph, which need not be computed.
      generalize s.extended triples = v
      rfl
    · rw [loadDocument_of_fault hdocument hreading,
        loadDocument_of_fault (s := s.unpackaged) hdocument hreading]
      rfl

/-- Loading classes asks the mapper. -/
theorem ignoresPackaging_loadClasses : IgnoresPackaging loadClasses := by
  intro s
  have hload : s.unpackaged.load = (s.load.1.unpackaged, s.load.2) :=
    Generator.load_unpackaged ..
  have hgraph : s.unpackaged.graph = s.graph := rfl
  rw [loadClasses_eq, loadClasses_eq, loaded, loaded, hload, hgraph]
  -- What was loaded and told does not matter.
  generalize s.load = load
  generalize s.graph.loadClasses.events = events
  rfl

/-- Writing types takes the packages that were found. -/
theorem ignoresPackaging_writeTypes (target : String) :
    IgnoresPackaging (writeTypes target) := by
  have hclasses : IgnoresPackaging withClasses := by
    intro s
    rw [withClasses, withClasses]
    show (if s.generator.classes.isEmpty then _ else _) = _
    split
    · exact ignoresPackaging_loadClasses s
    · rfl
  rw [writeTypes_eq]
  refine hclasses.bind fun _ s => ?_
  show inWorkspace (s.generator.unpackaged.write target) s.unpackaged = _
  rw [Generator.write_unpackaged]
  rfl

/-! ## Steps -/

theorem ignoresPackaging_perform {t : Step} (ht : t.setsPackaging = false) :
    IgnoresPackaging (perform t) := by
  cases t with
  | loadDocument path text format =>
    have hread : IgnoresPackaging (perform (.loadDocument path none format)) :=
      (ignoresPackaging_loadDocument path format).bind fun _ _ => rfl
    -- A text that is given is only put into the workspace first.
    cases text with
    | none => exact hread
    | some text => exact fun s => hread { s with workspace := s.workspace.give path text }
  | loadClasses => exact ignoresPackaging_loadClasses.bind fun _ _ => rfl
  | write target => exact (ignoresPackaging_writeTypes target).bind fun _ _ => rfl
  | setOption change =>
    cases change with
    | basePackage value | overrides value => cases ht
    | _ => exact fun _ => rfl
  | fixInOptions ns package => cases ht
  -- Whether there is something to drop is told by the classes and packages alone.
  | dropClass uri =>
    intro s
    have hclasses : s.unpackaged.generator.classes = s.generator.classes := rfl
    rw [perform, run_get_bind, run_get_bind, hclasses]
    split <;> rfl
  | dropPackage uri =>
    intro s
    have hpackages : s.unpackaged.generator.packages = s.generator.packages := rfl
    rw [perform, run_get_bind, run_get_bind, hpackages]
    split <;> rfl
  | _ => exact fun _ => rfl

/-- A step that sets options for packages changes nothing else. -/
theorem unpackaged_perform {t : Step} (ht : t.setsPackaging = true) (s : Session) :
    (perform t s).2.unpackaged = s.unpackaged := by
  cases t with
  | setOption change =>
    cases change with
    | basePackage value | overrides value => rfl
    | _ => cases ht
  | fixInOptions ns package => rfl
  | _ => cases ht

/-! ## Runs -/

/-- What is seen of a step in a run: what it came to, and the files there are after it. -/
structure Moment where
  step : Step
  result : StepResult
  files : Files.FileTree

/-- What is seen of the steps of a run, one after the other. -/
def history (s : Session) : List Step → List Moment
  | [] => []
  | t :: ts => ⟨t, (s.step t).2, (s.step t).1.workspace.files⟩ :: history (s.step t).1 ts

/-- The results in a history are those of the run. -/
theorem result_history (s : Session) (ts : List Step) :
    (s.history ts).map Moment.result = s.run ts := by
  induction ts generalizing s with
  | nil => rfl
  | cons t ts ih => exact congrArg ((s.step t).2 :: ·) (ih _)

/-- Two sessions are alike to the steps that do not set options for packages. -/
def Alike (s u : Session) : Prop := s.quiet.unpackaged = u.quiet.unpackaged

theorem Alike.step {s u : Session} {t : Step} (h : s.Alike u) (ht : t.setsPackaging = false) :
    (s.step t).2 = (u.step t).2 ∧ (s.step t).1.workspace = (u.step t).1.workspace
      ∧ (s.step t).1.Alike (u.step t).1 := by
  have hs := ignoresPackaging_perform ht s.quiet
  rw [h, ignoresPackaging_perform ht u.quiet] at hs
  obtain ⟨houtcome, hafter⟩ := Prod.mk.inj hs
  have hworkspace : (u.step t).1.workspace = (s.step t).1.workspace :=
    show (u.step t).1.unpackaged.workspace = (s.step t).1.unpackaged.workspace from
      congrArg workspace hafter
  refine ⟨?_, hworkspace.symm, congrArg quiet hafter.symm⟩
  exact congrArg₂ StepResult.mk houtcome.symm (congrArg Workspace.log hworkspace.symm)

theorem alike_step {t : Step} (ht : t.setsPackaging = true) (s : Session) :
    (s.step t).1.Alike s :=
  congrArg quiet (unpackaged_perform ht s.quiet)

/-- Without the steps that set options for packages the others are the same. -/
theorem Alike.history {s u : Session} (h : s.Alike u) (ts : List Step) :
    (s.history ts).filter (fun m => !m.step.setsPackaging)
      = u.history (ts.filter fun t => !t.setsPackaging) := by
  induction ts generalizing s u with
  | nil => rfl
  | cons t ts ih =>
    rw [Session.history]
    cases ht : t.setsPackaging with
    | true =>
      -- The step is left out on both sides, and what follows begins in a session like before.
      rw [List.filter_cons_of_neg (by simp [ht]), List.filter_cons_of_neg (by simp [ht])]
      exact ih ((alike_step ht s).trans h)
    | false =>
      obtain ⟨hresult, hworkspace, hafter⟩ := h.step ht
      rw [List.filter_cons_of_pos (by simp [ht]), List.filter_cons_of_pos (by simp [ht]),
        Session.history, hresult, hworkspace, ih hafter]

/-- Options for packages that are set after the generator was made have no effect. Runs that
have the same steps but for those that set such options have the same results and files at
every other step. The mapper is the one of the options at the beginning, with the packages
that were fixed in the mapper itself. -/
theorem packaging_unseen (options : GeneratorOptions) {ts us : List Step}
    (h : (ts.filter fun t => !t.setsPackaging) = us.filter fun t => !t.setsPackaging) :
    ((ofOptions options).history ts).filter (fun m => !m.step.setsPackaging)
        = ((ofOptions options).history us).filter (fun m => !m.step.setsPackaging)
      ∧ ((ofOptions options).after ts).generator.mapper
        = PackageMapper.fix
            { basePackage := options.basePackage, overrides := options.overrides }
            (ts.filterMap Step.fixed?) := by
  constructor
  · rw [Alike.history rfl ts, Alike.history rfl us, h]
  · exact mapper_after _ ts

end Session

/-! ## A run in which the options change -/

namespace Aviary

/-- Parrots are written, and again when their package is fixed in the mapper. -/
def steps : List Step :=
  [.add [⟨.uri "http://aviary/Parrot", .uri rdfType, .uri owlClass⟩], .write "out",
    .fixInMapper "http://aviary/" "birds", .loadClasses, .write "out"]

/-- The same, while all options for packages change. -/
def changing : List Step :=
  [.setOption (.basePackage (some "org.acme")),
    .add [⟨.uri "http://aviary/Parrot", .uri rdfType, .uri owlClass⟩], .write "out",
    .fixInOptions "http://aviary/" "cage", .fixInMapper "http://aviary/" "birds",
    .setOption (.overrides (.ofList [("http://aviary/", "nest")])), .loadClasses, .write "out"]

/-- The paths that were written, step by step. -/
def paths (results : List Session.StepResult) : List (List String) :=
  results.filterMap fun r =>
    match r.outcome with
    | .ok (.written paths) => some paths
    | _ => none

end Aviary

/-- Parrots are written to the same files. The changed options are used by a generator that is
made with them. -/
theorem aviary_packaging_unseen :
    (Aviary.changing.filter fun t => !t.setsPackaging)
        = Aviary.steps.filter (fun t => !t.setsPackaging)
      ∧ ((Session.ofOptions {}).history Aviary.changing).filter (fun m => !m.step.setsPackaging)
        = ((Session.ofOptions {}).history Aviary.steps).filter (fun m => !m.step.setsPackaging)
      ∧ Aviary.paths ((Session.ofOptions {}).run Aviary.changing)
        = [["out/aviary/Parrot.java"], ["out/birds/Parrot.java"]]
      ∧ Aviary.paths ((Session.ofOptions
            ((Session.ofOptions {}).after Aviary.changing).generator.options).run
          (Aviary.steps.take 2)) = [["out/nest/Parrot.java"]] := by
  have h : (Aviary.changing.filter fun t => !t.setsPackaging)
      = Aviary.steps.filter fun t => !t.setsPackaging := rfl
  exact ⟨h, (Session.packaging_unseen {} h).1, by decide +kernel, by decide +kernel⟩

end Ontogen
