import Ontogen.Proofs.Generation.Packages
import Ontogen.Proofs.Generation.Writing
import Ontogen.Session.Step

/-!
# What steps do to the generator

A session is run step by step, and of its state the generator is what decides how types
are written. What a step does to the generator depends on the graph alone, and only on a
load (`Step.effect`, `Session.generator_step`). So an invariant of the generator that holds
at the beginning and is kept by the effects of the steps holds wherever a run leads
(`Session.generator_after`).
-/

namespace Ontogen

open Data (OrderedMap run_bind run_bind_snd run_get_bind)

/-- The step takes the classes of the graph into the generator. -/
def Step.Loads (g : Generator) : Step → Prop
  | .loadClasses => True
  | .write _ => g.classes.isEmpty = true
  | _ => False

/-- What a step does to a generator in a session with the given graph. -/
def Step.effect (graph : Rdf.Graph) (g : Generator) : Step → Generator
  | .loadClasses => (g.load graph.loadClasses.classes).1
  | .write _ =>
    if g.classes.isEmpty then (g.load graph.loadClasses.classes).1 else g
  | .setOption change => { g with options := change.apply g.options }
  | .fixInOptions ns package =>
    { g with options := { g.options with overrides := g.options.overrides.insert ns package } }
  | .fixInMapper ns package =>
    { g with mapper := { g.mapper with overrides := g.mapper.overrides.insert ns package } }
  | .clearClasses => { g with classes := ∅ }
  | .dropClass uri => { g with classes := g.classes.erase uri }
  | .dropPackage uri => { g with packages := g.packages.erase uri }
  | .add _ | .remove _ | .loadDocument .. | .ask _ | .showState | .files => g

theorem Step.effect_of_loads {graph : Rdf.Graph} {g : Generator} {t : Step} (h : t.Loads g) :
    t.effect graph g = (g.load graph.loadClasses.classes).1 := by
  cases t with
  | loadClasses => rfl
  | write target => exact if_pos h
  | _ => exact h.elim

namespace Session

/-! ## Reading documents -/

/-- What a document says, in the given format or the one that its path tells. -/
def reading (s : Session) (path : String) (format : Option DocumentFormat) (text : String) :
    Rdf.Reading :=
  ((format <|> DocumentFormat.guess? path).getD .turtle).read (s.documents + 1) text

/-- The session after triples of one more document were added to the graph. -/
def extended (s : Session) (triples : List Rdf.Triple) : Session :=
  { s with graph := s.graph.addAll triples, documents := s.documents + 1 }

section Documents

variable {s : Session} {path : String} {format : Option DocumentFormat}

theorem loadDocument_of_missing {failure : Failure}
    (h : s.workspace.document? path = .error failure) :
    loadDocument path format s = (.error failure, s) := by
  have hdocument : (ExceptT.mk (do return (← get).workspace.document? path) :
      SessionAction String) s = (s.workspace.document? path, s) := rfl
  rw [loadDocument, run_bind, hdocument, h]
  rfl

/-- The triples of a document are added before its fault counts. -/
theorem loadDocument_of_text {text : String} (h : s.workspace.document? path = .ok text) :
    loadDocument path format s
      = (match (s.reading path format text).fault with
          | some fault => throw (faultFailure path (format <|> DocumentFormat.guess? path) fault)
          | none => get >>= fun t => tell (.documentLoaded path t.graph.size))
        (s.extended (s.reading path format text).triples) := by
  have hdocument : (ExceptT.mk (do return (← get).workspace.document? path) :
      SessionAction String) s = (s.workspace.document? path, s) := rfl
  rw [loadDocument, run_bind, hdocument, h]
  rfl

theorem loadDocument_of_fault {text : String} {triples : List Rdf.Triple} {fault : Rdf.Fault}
    (htext : s.workspace.document? path = .ok text)
    (hreading : s.reading path format text = ⟨triples, some fault⟩) :
    loadDocument path format s
      = (.error (faultFailure path (format <|> DocumentFormat.guess? path) fault),
        s.extended triples) := by
  rw [loadDocument_of_text htext, hreading]
  rfl

theorem loadDocument_of_no_fault {text : String} {triples : List Rdf.Triple}
    (htext : s.workspace.document? path = .ok text)
    (hreading : s.reading path format text = ⟨triples, none⟩) :
    loadDocument path format s
      = tell (.documentLoaded path (s.extended triples).graph.size) (s.extended triples) := by
  rw [loadDocument_of_text htext, hreading]
  rfl

/-- Reading a document leaves the generator alone. -/
theorem generator_loadDocument (path : String) (format : Option DocumentFormat) (s : Session) :
    (loadDocument path format s).2.generator = s.generator := by
  cases hdocument : s.workspace.document? path with
  | error failure => rw [loadDocument_of_missing hdocument]
  | ok text =>
    rcases hreading : s.reading path format text with ⟨triples, _ | fault⟩
    · rw [loadDocument_of_no_fault hdocument hreading]
      rfl
    · rw [loadDocument_of_fault hdocument hreading]
      rfl

end Documents

/-! ## Writing types -/

section Writing

variable {target : String} {s : Session}

/-- Without packages for the classes of the graph nothing is written. -/
theorem writeTypes_of_load_error {e : NamespaceError}
    (hclasses : s.generator.classes.isEmpty = true) (hload : s.load.2 = .error e) :
    writeTypes target s = (.error (.package e), s.loaded) := by
  have hwith : withClasses s = loadClasses s := if_pos hclasses
  rw [writeTypes_eq, run_bind, hwith, loadClasses_eq, hload]
  -- Both sides agree whatever was loaded, and nothing of the load need be computed.
  generalize s.loaded = v
  rfl

/-- A generator that knows no classes writes those of the graph. -/
theorem writeTypes_of_load (hclasses : s.generator.classes.isEmpty = true)
    (hload : s.load.2 = .ok ()) :
    writeTypes target s
      = ((s.loaded.generator.write target s.loaded.workspace).1,
        { s.loaded with
          workspace := (s.loaded.generator.write target s.loaded.workspace).2 }) := by
  have hwith : withClasses s = loadClasses s := if_pos hclasses
  rw [writeTypes_eq, run_bind, hwith, loadClasses_eq, hload]
  generalize s.loaded = v
  rfl

end Writing

/-- Writing types loads classes into a generator that knows none, and changes nothing else
of the generator. -/
theorem generator_writeTypes (target : String) (s : Session) :
    (writeTypes target s).2.generator
      = if s.generator.classes.isEmpty then s.load.1 else s.generator := by
  cases hclasses : s.generator.classes.isEmpty with
  | false =>
    rw [writeTypes_of_classes hclasses]
    rfl
  | true =>
    cases hload : s.load.2 with
    | ok _ =>
      rw [writeTypes_of_load hclasses hload]
      rfl
    | error e =>
      rw [writeTypes_of_load_error hclasses hload]
      rfl

/-! ## Steps -/

theorem generator_perform (t : Step) (s : Session) :
    (perform t s).2.generator = t.effect s.graph s.generator := by
  cases t with
  | add triples => rfl
  | remove triples => rfl
  | loadDocument path text format =>
    have hread : ∀ u, (perform (.loadDocument path none format) u).2.generator
        = u.generator := fun u => by
      rw [← generator_loadDocument path format u]
      exact congrArg generator (run_bind_snd (fun _ _ => rfl) u)
    cases text with
    | none => exact hread s
    | some text => exact hread { s with workspace := s.workspace.give path text }
  | ask query => rfl
  | loadClasses =>
    rw [perform, run_bind_snd fun _ _ => rfl, loadClasses_eq]
    rfl
  | showState => rfl
  | write target =>
    rw [perform, run_bind_snd fun _ _ => rfl, generator_writeTypes]
    rfl
  | files => rfl
  | setOption change => rfl
  | fixInOptions ns package => rfl
  | fixInMapper ns package => rfl
  | clearClasses => rfl
  | dropClass uri | dropPackage uri =>
    rw [perform, run_get_bind]
    split
    next => rfl
    next h =>
      -- What is not there cannot be dropped: the step fails, and there is nothing to erase.
      rw [OrderedMap.contains_iff_mem_keys] at h
      rw [Step.effect, OrderedMap.erase_of_not_mem h]
      rfl

/-- The session in which a step is done: nothing has been told yet. -/
def quiet (s : Session) : Session := { s with workspace := { s.workspace with told := [] } }

theorem load_quiet (s : Session) : s.quiet.load = s.load := rfl

theorem session_step (s : Session) (t : Step) : (s.step t).1 = (perform t s.quiet).2 := rfl

theorem outcome_step (s : Session) (t : Step) :
    (s.step t).2.outcome = (perform t s.quiet).1 := rfl

theorem log_step (s : Session) (t : Step) :
    (s.step t).2.log = (s.step t).1.workspace.told.reverse := rfl

theorem session_step_write (s : Session) (target : String) :
    (s.step (.write target)).1 = (writeTypes target s.quiet).2 := by
  rw [session_step, perform, run_bind_snd fun _ _ => rfl]

theorem session_step_loadClasses (s : Session) : (s.step .loadClasses).1 = s.quiet.loaded := by
  rw [session_step, perform, run_bind_snd fun _ _ => rfl, loadClasses_eq]

/-- A step that writes comes to what writing types comes to. -/
theorem outcome_step_write (s : Session) (target : String) :
    (s.step (.write target)).2.outcome = (writeTypes target s.quiet).1.map .written := by
  rw [outcome_step, perform, run_bind]
  rcases writeTypes target s.quiet with ⟨_ | _, u⟩ <;> rfl

/-- What a step does to the generator of a session. -/
theorem generator_step (s : Session) (t : Step) :
    (s.step t).1.generator = t.effect s.graph s.generator :=
  generator_perform t s.quiet

/-! ## Runs -/

/-- The session after steps. -/
def after (s : Session) : List Step → Session
  | [] => s
  | t :: ts => after (s.step t).1 ts

theorem after_append (s : Session) (ts us : List Step) :
    s.after (ts ++ us) = (s.after ts).after us := by
  induction ts generalizing s with
  | nil => rfl
  | cons t ts ih => exact ih (s.step t).1

theorem run_append (s : Session) (ts us : List Step) :
    s.run (ts ++ us) = s.run ts ++ (s.after ts).run us := by
  induction ts generalizing s with
  | nil => rfl
  | cons t ts ih => exact congrArg ((s.step t).2 :: ·) (ih (s.step t).1)

/-- A step of a run has its result among those of the run. -/
theorem result_mem_run (s : Session) (ts : List Step) (t : Step) (us : List Step) :
    ((s.after ts).step t).2 ∈ s.run (ts ++ t :: us) := by
  rw [run_append]
  exact List.mem_append_right _ (List.mem_cons_self ..)

/-- What holds of the generator at the beginning holds of it after the steps, when the effect
of every step of the run keeps it. -/
theorem generator_after {P : Generator → Prop} {s : Session} {ts : List Step}
    (hs : P s.generator)
    (hstep : ∀ front t back, ts = front ++ t :: back → P (s.after front).generator →
      P (t.effect (s.after front).graph (s.after front).generator)) :
    P (s.after ts).generator := by
  -- From the end of the run: what holds before its last step, the effect of that step keeps.
  induction ts using List.reverseRecOn with
  | nil => exact hs
  | append_singleton ts t ih =>
    have hfront : P (s.after ts).generator := by
      refine ih fun front t' back hts => hstep front t' (back ++ [t]) ?_
      rw [hts, List.append_assoc, List.cons_append]
    rw [after_append]
    show P ((s.after ts).step t).1.generator
    rw [generator_step]
    exact hstep ts t [] rfl hfront

/-- A step that loads fails when packages are not found. -/
theorem outcome_step_of_load_error {s : Session} {t : Step} {e : NamespaceError}
    (ht : t.Loads s.generator) (hload : s.load.2 = .error e) :
    (s.step t).2.outcome = .error (.package e) := by
  cases t with
  | loadClasses =>
    rw [outcome_step, perform, run_bind, loadClasses_eq, load_quiet, hload]
    rfl
  | write target =>
    rw [← load_quiet] at hload
    have hclasses : s.quiet.generator.classes.isEmpty = true := ht
    rw [outcome_step_write, writeTypes_of_load_error hclasses hload]
    rfl
  | _ => exact ht.elim

end Session

end Ontogen
