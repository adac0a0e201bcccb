import Ontogen.Proofs.Generation.Containment
import Ontogen.Proofs.Package.Derivation
import Ontogen.Proofs.Session.Effects

/-!
# Sessions that keep to their targets

Without a base and without fixed packages a mapper gives every URI a package made of words.
A generator that was made with such a mapper has no other packages, whatever is loaded, set
or dropped, unless packages are fixed in the mapper (`Generator.HasPlainPackages.effect`). So
in every run a step that writes keeps to its target.

Main result: `Session.writes_below_target`. The graph does not matter, and neither do files
that are there.
-/

namespace Ontogen

open Data (OrderedMap map_eq_ok_iff map_eq_error_iff)
open Files (FileTree Location)
open Rdf.Vocabulary

/-! ## Packages of a generator -/

namespace Generator

/-- Neither a base nor fixed packages are known to the mapper, and the packages are made of
words. -/
structure HasPlainPackages (g : Generator) : Prop where
  basePackage : g.mapper.basePackage = none
  overrides : g.mapper.overrides = ∅
  packages : PlainPackages g.packages

theorem hasPlainPackages_ofOptions {options : GeneratorOptions}
    (hbase : options.basePackage = none) (hoverrides : options.overrides = ∅) :
    (ofOptions options).HasPlainPackages where
  basePackage := hbase
  overrides := hoverrides
  packages := fun _ _ h => by cases h

namespace HasPlainPackages

variable {g : Generator}

theorem load (hg : g.HasPlainPackages) (classes : ClassMap) :
    (g.load classes).1.HasPlainPackages := by
  cases hload : (g.load classes).2 with
  | ok _ =>
    obtain ⟨packages, hmap, hg'⟩ := load_eq_ok hload
    obtain ⟨-, hfind⟩ := PackageMapper.packageMap_eq_ok hmap
    rw [hg']
    refine ⟨hg.basePackage, hg.overrides, fun uri package hpackage => ?_⟩
    exact PackageMapper.isPlainPackage_packageFor hg.basePackage hg.overrides
      (hfind uri package hpackage)
  | error e =>
    obtain ⟨-, hg'⟩ := load_eq_error hload
    rw [hg']
    exact ⟨hg.basePackage, hg.overrides, hg.packages⟩

/-- Only a step that fixes a package in the mapper can bring in others. -/
theorem effect {graph : Rdf.Graph} {t : Step} (hg : g.HasPlainPackages)
    (ht : ∀ ns package, t ≠ .fixInMapper ns package) :
    (t.effect graph g).HasPlainPackages := by
  cases t with
  | loadClasses => exact hg.load _
  | write target =>
    rw [Step.effect]
    split
    next => exact hg.load _
    next => exact hg
  | dropPackage uri =>
    refine ⟨hg.basePackage, hg.overrides, fun uri' package h => ?_⟩
    rw [Step.effect, OrderedMap.find?_eq_some_iff] at h
    exact hg.packages uri' package (OrderedMap.find?_eq_some_iff.mpr (List.mem_of_mem_filter h))
  | fixInMapper ns package => exact absurd rfl (ht ns package)
  | add | remove | loadDocument | ask | showState | files | setOption | fixInOptions
  | clearClasses | dropClass => exact ⟨hg.basePackage, hg.overrides, hg.packages⟩

end HasPlainPackages

end Generator

/-! ## Writing in a session -/

/-- Loading tells of no files. -/
theorem ClassLoad.fileWritten_not_mem_events (load : ClassLoad) (path : String) :
    .fileWritten path ∉ load.events := by
  intro h
  rcases List.mem_append.mp h with h | h
  · obtain ⟨_, -, h⟩ := List.mem_map.mp h
    cases h
  · cases List.mem_singleton.mp h

namespace Session

variable {target : String} {s : Session}

/-- Loading leaves the files alone. -/
theorem confined_loaded (target : String) (s : Session) :
    Confined target s.workspace s.loaded.workspace where
  files := fun _ h => absurd rfl h
  directories := fun _ => Or.inl
  told := by
    intro path h
    rcases List.mem_append.mp h with h | h
    · exact absurd (List.mem_reverse.mp h) (ClassLoad.fileWritten_not_mem_events _ path)
    · exact Or.inl h

/-- Writing types keeps to the target when packages are made of words. -/
theorem keepsTo_writeTypes (hs : s.generator.HasPlainPackages) (target : String) :
    Confined target s.workspace (writeTypes target s).2.workspace
      ∧ (∀ paths, (writeTypes target s).1 = .ok paths → ∀ path ∈ paths, IsSourcePath target path)
      ∧ ∀ e path, (writeTypes target s).1 = .error (.file e path) → IsSourcePath target path := by
  cases hclasses : s.generator.classes.isEmpty with
  | false =>
    have hwrite := Generator.keepsTo_write hs.packages target
    rw [writeTypes_of_classes hclasses]
    dsimp only
    exact ⟨hwrite.confined _, hwrite.result _, hwrite.failure _⟩
  | true =>
    cases hload : s.load.2 with
    | ok _ =>
      have hloaded : s.loaded.generator.HasPlainPackages := by
        rw [generator_loaded]
        exact hs.load s.graph.loadClasses.classes
      have hwrite := Generator.keepsTo_write hloaded.packages target
      rw [writeTypes_of_load hclasses hload]
      dsimp only
      exact ⟨(confined_loaded target s).trans (hwrite.confined _), hwrite.result _,
        hwrite.failure _⟩
    | error e =>
      rw [writeTypes_of_load_error hclasses hload]
      refine ⟨confined_loaded target s, ?_, ?_⟩
      · intro paths h
        cases h
      · intro e path h
        cases h

theorem hasPlainPackages_after {ts : List Step} (hs : s.generator.HasPlainPackages)
    (hfixed : ∀ t ∈ ts, ∀ ns package, t ≠ .fixInMapper ns package) :
    (s.after ts).generator.HasPlainPackages := by
  refine generator_after hs fun front t back hts hfront => hfront.effect (hfixed t ?_)
  rw [hts]
  exact List.mem_append_right _ (List.mem_cons_self ..)

/-- A step touches nothing but what is below a target: all paths that it gives or tells of, the
one at which it fails and all files that it changes are those of sources. New directories
are on the way to the target or to a source. -/
structure TouchesBelow (target : String) (s u : Session) (r : StepResult) : Prop where
  written : ∀ paths, r.outcome = .ok (.written paths) → ∀ path ∈ paths, IsSourcePath target path
  failed : ∀ e path, r.outcome = .error (.file e path) → IsSourcePath target path
  told : ∀ path, .fileWritten path ∈ r.log → IsSourcePath target path
  files : ∀ l, u.workspace.files.files.find? l ≠ s.workspace.files.files.find? l →
    ∃ p : SourcePlace, l = p.location target
  directories : ∀ l, u.workspace.files.isDirectory l = true →
    s.workspace.files.isDirectory l = true ∨ FileTree.OnWay target l
      ∨ ∃ (p : SourcePlace) (n : Nat), l = Files.locate target ++ p.names.take n

theorem touchesBelow_step_write (hs : s.generator.HasPlainPackages) (target : String) :
    TouchesBelow target s (s.step (.write target)).1 (s.step (.write target)).2 := by
  have hquiet : s.quiet.generator.HasPlainPackages := hs
  obtain ⟨hconfined, hpaths, hfailure⟩ := keepsTo_writeTypes hquiet target
  rw [← session_step_write] at hconfined
  refine ⟨?_, ?_, ?_, hconfined.files, hconfined.directories⟩
  · intro paths hwritten
    rw [outcome_step_write] at hwritten
    obtain ⟨paths', hpaths', heq⟩ := map_eq_ok_iff.mp hwritten
    obtain rfl := Answer.written.inj heq
    exact hpaths paths' hpaths'
  · intro e path hfile
    rw [outcome_step_write] at hfile
    exact hfailure e path (map_eq_error_iff.mp hfile)
  · intro path htold
    rw [log_step, List.mem_reverse] at htold
    -- Before the step nothing was told.
    exact (hconfined.told path htold).resolve_left List.not_mem_nil

/-- Take a generator without a base and without fixed packages, in a session with any graph and
any files, and steps of which none fixes a package in the mapper. Then a step that loads
touches no file, and a step that writes touches nothing but what is below its target. -/
theorem writes_below_target {options : GeneratorOptions} {steps : List Step}
    (hgenerator : s.generator = .ofOptions options) (hbase : options.basePackage = none)
    (hoverrides : options.overrides = ∅)
    (hfixed : ∀ t ∈ steps, ∀ ns package, t ≠ .fixInMapper ns package) :
    (∀ front back, steps = front ++ .loadClasses :: back →
        ((s.after front).step .loadClasses).1.workspace.files = (s.after front).workspace.files)
      ∧ ∀ front target back u r, steps = front ++ .write target :: back →
          (s.after front).step (.write target) = (u, r) →
          TouchesBelow target (s.after front) u r := by
  constructor
  · intro front back _
    rw [session_step_loadClasses]
    rfl
  · intro front target back u r hsteps hstep
    have hplain : s.generator.HasPlainPackages := by
      rw [hgenerator]
      exact Generator.hasPlainPackages_ofOptions hbase hoverrides
    have hfront : (s.after front).generator.HasPlainPackages := by
      refine hasPlainPackages_after hplain fun t ht => hfixed t ?_
      rw [hsteps]
      exact List.mem_append_left _ ht
    have htouches := touchesBelow_step_write hfront target
    rwa [hstep] at htouches

end Session

/-! ## A schema that points elsewhere -/

namespace Zoo

/-- A class whose URI leads upwards. -/
def stowaway : Uri := "http://WWW.zoo.org/../Ä//x/#../Dog"

/-- The class is loaded, and then its types are written. -/
def escape : List Step :=
  [.add [⟨.uri stowaway, .uri rdfType, .uri owlClass⟩], .loadClasses, .write ".."]

/-- The session before the types are written. -/
def boarded : Session := (Session.ofOptions {}).after (escape.take 2)

theorem outcome_write_boarded :
    (boarded.step (.write "..")).2.outcome
      = .ok (.written ["../org/zoo/__/_/x/___Dog.java"]) := by
  have hwritten : (Session.writeTypes ".." boarded.quiet).1
      = .ok ["../org/zoo/__/_/x/___Dog.java"] := by decide +kernel
  rw [Session.outcome_step_write, hwritten]
  rfl

end Zoo

theorem escape_writes_below_target :
    (∀ t ∈ Zoo.escape, ∀ ns package, t ≠ .fixInMapper ns package)
      ∧ ∃ u r, Zoo.boarded.step (.write "..") = (u, r)
        ∧ r.outcome = .ok (.written ["../org/zoo/__/_/x/___Dog.java"])
        ∧ IsSourcePath ".." "../org/zoo/__/_/x/___Dog.java"
        ∧ ∀ l, u.workspace.files.files.find? l ≠ Zoo.boarded.workspace.files.files.find? l →
          ∃ p : SourcePlace, l = p.location ".." := by
  have hfixed : ∀ t ∈ Zoo.escape, ∀ ns package, t ≠ .fixInMapper ns package := by
    simp [Zoo.escape]
  obtain ⟨-, hwrite⟩ := Session.writes_below_target (s := .ofOptions {}) rfl rfl rfl hfixed
  have htouches : Session.TouchesBelow ".." Zoo.boarded (Zoo.boarded.step (.write "..")).1
      (Zoo.boarded.step (.write "..")).2 :=
    hwrite (Zoo.escape.take 2) ".." [] _ _ rfl (Prod.eta _).symm
  have houtcome := Zoo.outcome_write_boarded
  exact ⟨hfixed, _, _, (Prod.eta _).symm, houtcome,
    htouches.written _ houtcome _ (List.mem_singleton_self _), htouches.files⟩

end Ontogen
