import Ontogen.Proofs.Data.Traversal
import Ontogen.Proofs.Files.Tree
import Ontogen.Session

/-!
# Writing the types of a generator

What a generator writes is known before it writes: the interface of each class and its
implementation if it has one (`Generator.types`). What an action does is said by the types
that it stores and by what it comes to, a result or a failure (`Performs`), and that is put
together along the program. So writing succeeds exactly when all types are there and one
after the other can be stored in the tree of files (`leaves_write_iff`). A type that was
stored is read with its text, unless a later one was stored at its place
(`Stored.read_typePath`).
-/

namespace Ontogen

open Data (bind_eq_ok_iff bind_eq_error_iff mapM_eq_error_iff run_bind run_bind_eq_ok_iff)
open Files (FileTree Location IsPlain)
open Emission (TypeSource EmissionError EmissionOptions interfaceOf implementationOf)

/-! ## Writing a file -/

namespace Action

/-- What writing a file comes to. -/
theorem writeFile_run (directory name text : String) (w : Workspace) :
    writeFile directory name text w
      = match w.files.write directory name text with
        | (files, .ok ()) =>
          (.ok (Files.joinPath directory name),
            { w with files, told := .fileWritten (Files.joinPath directory name) :: w.told })
        | (files, .error e) =>
          (.error (.file e (Files.joinPath directory name)), { w with files }) := by
  have hrun : writeFile directory name text w
      = (do
          ofExcept (fun e => .file e (Files.joinPath directory name))
            (w.files.write directory name text).2
          tell (.fileWritten (Files.joinPath directory name))
          return Files.joinPath directory name : Action String)
        { w with files := (w.files.write directory name text).1 } := rfl
  rw [hrun]
  rcases w.files.write directory name text with ⟨files, _ | _⟩ <;> rfl

end Action

/-! ## The types of a generator -/

/-- The place of the file of a type. -/
def typePlace (target : String) (t : TypeSource) : Location := Files.locate (typePath target t)

namespace Generator

/-- What is written for a class: its interface, and its implementation if it has one. -/
def typesOf (g : Generator) (c : SchemaClass) : Except EmissionError (List TypeSource) := do
  let interface ← interfaceOf c g.packages
  let implementation ← implementationOf g.options.emission c g.classes g.packages
  return interface :: implementation.toList

/-- What is written for all classes, in order. -/
def types (g : Generator) : Except EmissionError (List TypeSource) := do
  return (← g.classes.values.mapM g.typesOf).flatten

/-- What is written for a class is an interface and, if it has properties, an implementation. -/
theorem typesOf_eq_ok_iff {g : Generator} {c : SchemaClass} {types : List TypeSource} :
    g.typesOf c = .ok types
      ↔ ∃ i, interfaceOf c g.packages = .ok i
        ∧ ∃ m, implementationOf g.options.emission c g.classes g.packages = .ok m
          ∧ types = i :: m.toList := by
  rw [typesOf, bind_eq_ok_iff]
  constructor
  · intro h
    obtain ⟨i, hi, h⟩ := h
    obtain ⟨m, hm, h⟩ := bind_eq_ok_iff.mp h
    exact ⟨i, hi, m, hm, (Except.ok.inj h).symm⟩
  · intro h
    obtain ⟨i, hi, m, hm, rfl⟩ := h
    exact ⟨i, hi, bind_eq_ok_iff.mpr ⟨m, hm, rfl⟩⟩

/-- Something is missing where it is missing for a class, and for none before it. -/
theorem types_eq_error_iff {g : Generator} {e : EmissionError} :
    g.types = .error e
      ↔ ∃ done c rest lists, g.classes.values = done ++ c :: rest
        ∧ done.mapM g.typesOf = .ok lists ∧ g.typesOf c = .error e := by
  rw [types, bind_eq_error_iff]
  constructor
  · rintro (h | ⟨lists, -, h⟩)
    · exact mapM_eq_error_iff.mp h
    · cases h
  · intro h
    exact Or.inl (mapM_eq_error_iff.mpr h)

end Generator

/-! ## Types that can be stored -/

/-- The source of a type can be stored when the lines around its members and those of its
members can. -/
theorem isStorable_text {t : TypeSource}
    (hlines : ∀ line ∈ { t.unit with members := [] }.lines, FileTree.IsStorable line)
    (hmembers : ∀ m ∈ t.members, ∀ line ∈ m.lines Emission.indent, FileTree.IsStorable line) :
    FileTree.IsStorable t.unit.text := by
  have hend : FileTree.IsStorable "\n" := by decide
  have hall : ∀ line ∈ t.unit.lines, FileTree.IsStorable line := by
    intro line hline
    rw [Source.CompilationUnit.lines, List.mem_append, List.mem_append, List.mem_flatMap] at hline
    rcases hline with (hfront | ⟨text, htext, hline⟩) | hlast
    · exact hlines line (List.mem_append_left _ (List.mem_append_left _ hfront))
    · rcases List.mem_cons.mp hline with rfl | hline
      · obtain ⟨m, hm, rfl⟩ := List.mem_map.mp htext
        exact FileTree.isStorable_intercalate hend (hmembers m hm)
      · rw [List.mem_singleton.mp hline]
        decide
    · exact hlines line (List.mem_append_right _ hlast)
  intro c hc
  rw [Source.CompilationUnit.text, String.toList_join, List.flatMap_map, List.mem_flatMap] at hc
  obtain ⟨line, hline, hc⟩ := hc
  exact FileTree.isStorable_append (hall line hline) hend c hc

/-! ## Types that are stored -/

/-- Types are written one after the other, which leads from one tree of files to another. -/
inductive Stored (target : String) : FileTree → List TypeSource → FileTree → Prop where
  | nil {t : FileTree} : Stored target t [] t
  | cons {t u v : FileTree} {type : TypeSource} {types : List TypeSource}
      (h : t.write (packageDirectory target type.package) (fileName type) type.unit.text
        = (u, .ok ()))
      (rest : Stored target u types v) : Stored target t (type :: types) v

theorem Stored.append {target : String} {t u v : FileTree} {types others : List TypeSource}
    (h : Stored target t types u) (h' : Stored target u others v) :
    Stored target t (types ++ others) v := by
  induction h with
  | nil => exact h'
  | cons hwrite _ ih => exact .cons hwrite (ih h')

theorem Stored.split {target : String} {t v : FileTree} {types others : List TypeSource}
    (h : Stored target t (types ++ others) v) :
    ∃ u, Stored target t types u ∧ Stored target u others v := by
  induction types generalizing t with
  | nil => exact ⟨t, .nil, h⟩
  | cons type types ih =>
    cases h with
    | cons hwrite rest =>
      obtain ⟨u, hfirst, hsecond⟩ := ih rest
      exact ⟨u, .cons hwrite hfirst, hsecond⟩

/-- What is left of the tree is told by the types. -/
theorem Stored.unique {target : String} {t u v : FileTree} {types : List TypeSource}
    (h : Stored target t types u) (h' : Stored target t types v) : u = v := by
  induction h with
  | nil =>
    cases h'
    rfl
  | cons hwrite _ ih =>
    cases h' with
    | cons hwrite' hrest =>
      rw [hwrite] at hwrite'
      obtain ⟨rfl, -⟩ := Prod.mk.inj hwrite'
      exact ih hrest

/-- The text at a place after types were written: that of the last of them there, and if
there is none, the text from before. -/
def textAt (target : String) (l : Location) (old : String) (types : List TypeSource) : String :=
  types.foldl (fun text t => if l = typePlace target t then t.unit.text else text) old

theorem textAt_of_not_mem {target : String} {l : Location} {old : String}
    {types : List TypeSource} (h : l ∉ types.map (typePlace target)) :
    textAt target l old types = old := by
  induction types with
  | nil => rfl
  | cons t types ih =>
    rw [List.map_cons, List.mem_cons, not_or] at h
    have hrest := ih h.2
    rwa [textAt, List.foldl_cons, if_neg h.1]

/-- A file that could be read still can when types were written. It has the text of the
last type at its place. -/
theorem Stored.read {target path old : String} {t u : FileTree} {types : List TypeSource}
    (h : Stored target t types u) (hplain : ∀ type ∈ types, IsPlain (fileName type))
    (hread : t.read path = .ok old) :
    u.read path = .ok (textAt target (Files.locate path) old types) := by
  induction h generalizing old with
  | nil => exact hread
  | cons hwrite _ ih =>
    have hnew := FileTree.read_write (hplain _ (List.mem_cons_self ..)) hread hwrite
    exact ih (fun type htype => hplain type (List.mem_cons_of_mem _ htype)) hnew

/-- Every type that was written can be read, unless a later one has its place. -/
theorem Stored.read_typePath {target : String} {t v : FileTree} {type : TypeSource}
    {before after : List TypeSource} (h : Stored target t (before ++ type :: after) v)
    (hplain : ∀ type' ∈ before ++ type :: after, IsPlain (fileName type')) :
    v.read (typePath target type)
      = .ok (textAt target (typePlace target type) type.unit.text after) := by
  obtain ⟨u, -, hrest⟩ := h.split
  cases hrest with
  | cons hwrite hafter =>
    have hmem : ∀ {type'}, type' ∈ type :: after → type' ∈ before ++ type :: after :=
      List.mem_append_right before
    have hread := FileTree.read_write_same (hplain type (hmem (List.mem_cons_self ..))) hwrite
    exact hafter.read (fun type' htype => hplain type' (hmem (List.mem_cons_of_mem _ htype)))
      hread

/-! ## What actions perform -/

/-- An action stores types one after the other and then comes to a result. Where these types
cannot all be stored, it comes to a failure that names the file that is in the way. -/
def Performs {α : Type} (x : Action α) (target : String) (types : List TypeSource)
    (r : Except Failure α) : Prop :=
  ∀ w, (x w).1 = r ∧ Stored target w.files types (x w).2.files
    ∨ (∀ u, ¬ Stored target w.files types u) ∧ ∃ e path, (x w).1 = .error (.file e path)

section Performs

variable {α β : Type} {target : String} {types others : List TypeSource}

theorem performs_pure (a : α) : Performs (pure a) target [] (.ok a) :=
  fun _ => Or.inl ⟨rfl, .nil⟩

theorem performs_tell (e : Event) : Performs (Action.tell e) target [] (.ok ()) :=
  fun _ => Or.inl ⟨rfl, .nil⟩

theorem performs_ofExcept {ε : Type} (target : String) (failure : ε → Failure)
    (x : Except ε α) : Performs (Action.ofExcept failure x) target [] (x.mapError failure) := by
  intro w
  cases x with
  | ok a => exact Or.inl ⟨rfl, .nil⟩
  | error e => exact Or.inl ⟨rfl, .nil⟩

/-- What two actions perform when the first one comes to a result. -/
theorem Performs.bind {x : Action α} {f : α → Action β} {a : α} {r : Except Failure β}
    (hx : Performs x target types (.ok a)) (hf : Performs (f a) target others r) :
    Performs (x >>= f) target (types ++ others) r := by
  intro w
  rcases hx w with ⟨ha, hfirst⟩ | ⟨hnone, e, path, he⟩
  · have hnext : (x >>= f) w = f a (x w).2 := by rw [run_bind, ha]; rfl
    rw [hnext]
    rcases hf (x w).2 with ⟨hr, hrest⟩ | ⟨hnone, e, path, he⟩
    · exact Or.inl ⟨hr, hfirst.append hrest⟩
    · refine Or.inr ⟨fun u hu => ?_, e, path, he⟩
      obtain ⟨v, hfirst', hrest⟩ := hu.split
      rw [hfirst.unique hfirst'] at hnone
      exact hnone u hrest
  · refine Or.inr ⟨fun u hu => ?_, e, path, by rw [run_bind, he]; rfl⟩
    obtain ⟨v, hfirst, -⟩ := hu.split
    exact hnone v hfirst

theorem Performs.bind_nil {x : Action α} {f : α → Action β} {a : α} {r : Except Failure β}
    (hx : Performs x target types (.ok a)) (hf : Performs (f a) target [] r) :
    Performs (x >>= f) target types r := by
  have h := hx.bind hf
  rwa [List.append_nil] at h

/-- After a failure nothing else is performed. -/
theorem Performs.bind_error {x : Action α} {f : α → Action β} {failure : Failure}
    (hx : Performs x target types (.error failure)) :
    Performs (x >>= f) target types (.error failure) := by
  intro w
  rcases hx w with ⟨hfailure, hstored⟩ | ⟨hnone, e, path, he⟩
  · have hstop : (x >>= f) w = (.error failure, (x w).2) := by rw [run_bind, hfailure]; rfl
    rw [hstop]
    exact Or.inl ⟨rfl, hstored⟩
  · exact Or.inr ⟨hnone, e, path, by rw [run_bind, he]; rfl⟩

theorem performs_writeType (target : String) (type : TypeSource) :
    Performs (writeType target type) target [type] (.ok (typePath target type)) := by
  intro w
  rw [writeType, Action.writeFile_run]
  cases hwrite : w.files.write (packageDirectory target type.package) (fileName type)
      type.unit.text with
  | mk files result =>
    cases result with
    | ok _ => exact Or.inl ⟨rfl, .cons hwrite .nil⟩
    | error e =>
      refine Or.inr ⟨fun u hu => ?_, e, _, rfl⟩
      cases hu with
      | cons hwrite' _ =>
        rw [hwrite] at hwrite'
        cases (Prod.mk.inj hwrite').2

end Performs

/-! ## What writing performs -/

section Writing

variable {target : String} {w : Workspace} {u : FileTree}

theorem performs_writeInterface {c : SchemaClass} {packages : PackageMap} {i : TypeSource}
    (h : interfaceOf c packages = .ok i) :
    Performs (writeInterface target c packages) target [i] (.ok (typePath target i)) := by
  have hlookup := performs_ofExcept target .emission (interfaceOf c packages)
  rw [h] at hlookup
  rw [writeInterface, h]
  exact hlookup.bind (performs_writeType target i)

theorem performs_writeInterface_error {c : SchemaClass} {packages : PackageMap}
    {e : EmissionError} (h : interfaceOf c packages = .error e) :
    Performs (writeInterface target c packages) target [] (.error (.emission e)) := by
  have hlookup := performs_ofExcept target .emission (interfaceOf c packages)
  rw [h] at hlookup
  rw [writeInterface, h]
  exact hlookup.bind_error

theorem performs_writeImplementation {options : EmissionOptions} {c : SchemaClass}
    {classes : ClassMap} {packages : PackageMap} {m : Option TypeSource}
    (h : implementationOf options c classes packages = .ok m) :
    Performs (writeImplementation options target c classes packages) target m.toList
      (.ok (m.map (typePath target))) := by
  have hlookup := performs_ofExcept target .emission
    (implementationOf options c classes packages)
  rw [h] at hlookup
  rw [writeImplementation, h]
  cases m with
  | some type => exact hlookup.bind ((performs_writeType target type).bind (performs_pure _))
  | none => exact hlookup.bind ((performs_tell _).bind (performs_pure _))

theorem performs_writeImplementation_error {options : EmissionOptions} {c : SchemaClass}
    {classes : ClassMap} {packages : PackageMap} {e : EmissionError}
    (h : implementationOf options c classes packages = .error e) :
    Performs (writeImplementation options target c classes packages) target []
      (.error (.emission e)) := by
  have hlookup := performs_ofExcept target .emission
    (implementationOf options c classes packages)
  rw [h] at hlookup
  rw [writeImplementation, h]
  exact hlookup.bind_error

namespace Generator

variable {g : Generator} {c : SchemaClass}

/-- What is written for a class before something is found missing: its interface, if that is
there. -/
def begun (g : Generator) (c : SchemaClass) : List TypeSource :=
  (interfaceOf c g.packages).toOption.toList

theorem performs_writeClass {types : List TypeSource} (h : g.typesOf c = .ok types) :
    Performs (g.writeClass target c) target types (.ok (types.map (typePath target))) := by
  obtain ⟨i, hi, m, hm, rfl⟩ := typesOf_eq_ok_iff.mp h
  have hpaths : (i :: m.toList).map (typePath target)
      = typePath target i :: (m.map (typePath target)).toList := by cases m <;> rfl
  rw [writeClass, hpaths]
  exact (performs_writeInterface hi).bind
    ((performs_writeImplementation hm).bind_nil (performs_pure _))

theorem performs_writeClass_error {e : EmissionError} (h : g.typesOf c = .error e) :
    Performs (g.writeClass target c) target (g.begun c) (.error (.emission e)) := by
  rw [typesOf] at h
  rw [writeClass, begun]
  cases hi : interfaceOf c g.packages with
  | error e' =>
    rw [hi] at h
    obtain rfl := Except.error.inj h
    exact (performs_writeInterface_error hi).bind_error
  | ok i =>
    rw [hi] at h
    cases hm : implementationOf g.options.emission c g.classes g.packages with
    | error e' =>
      rw [hm] at h
      obtain rfl := Except.error.inj h
      exact (performs_writeInterface hi).bind (performs_writeImplementation_error hm).bind_error
    | ok m =>
      rw [hm] at h
      cases h

theorem performs_mapM_writeClass {cs : List SchemaClass} {lists : List (List TypeSource)}
    (h : cs.mapM g.typesOf = .ok lists) :
    Performs (cs.mapM (g.writeClass target)) target lists.flatten
      (.ok (lists.map (List.map (typePath target)))) := by
  rw [Data.mapM_eq_ok_iff_forall₂] at h
  induction h with
  | nil => exact performs_pure []
  | cons hc _ ih =>
    rw [List.mapM_cons, List.flatten_cons]
    refine (performs_writeClass hc).bind ?_
    exact ih.bind_nil (performs_pure _)

theorem performs_mapM_writeClass_error {done rest : List SchemaClass} {e : EmissionError}
    {lists : List (List TypeSource)} (hdone : done.mapM g.typesOf = .ok lists)
    (hc : g.typesOf c = .error e) :
    Performs ((done ++ c :: rest).mapM (g.writeClass target)) target
      (lists.flatten ++ g.begun c) (.error (.emission e)) := by
  rw [List.mapM_append, List.mapM_cons]
  exact (performs_mapM_writeClass hdone).bind (performs_writeClass_error hc).bind_error.bind_error

/-- Where nothing is missing, writing stores the types of all classes and gives their
paths. -/
theorem performs_write (target : String) {types : List TypeSource} (h : g.types = .ok types) :
    Performs (g.write target) target types (.ok (types.map (typePath target))) := by
  obtain ⟨lists, hlists, htypes⟩ := bind_eq_ok_iff.mp h
  obtain rfl := Except.ok.inj htypes
  rw [write, List.map_flatten]
  refine (performs_mapM_writeClass hlists).bind_nil ?_
  exact (performs_tell _).bind_nil (performs_pure _)

/-- Writing ends at the first class for which something is missing. Then the types of the
classes before it are stored, and what was begun for it. -/
theorem performs_write_error (target : String) {done rest : List SchemaClass}
    {e : EmissionError} {lists : List (List TypeSource)}
    (hvalues : g.classes.values = done ++ c :: rest) (hdone : done.mapM g.typesOf = .ok lists)
    (hc : g.typesOf c = .error e) :
    Performs (g.write target) target (lists.flatten ++ g.begun c) (.error (.emission e)) := by
  rw [write, hvalues]
  exact (performs_mapM_writeClass_error hdone hc).bind_error

/-- An action in a workspace gives a result and leaves these files. -/
def Leaves {α : Type} (x : Action α) (w : Workspace) (a : α) (u : FileTree) : Prop :=
  ∃ w', x w = (.ok a, w') ∧ w'.files = u

/-- Writing gives the paths of all types and stores them; it succeeds where they are there
and can be stored. -/
theorem leaves_write_iff {paths : List String} :
    Leaves (g.write target) w paths u
      ↔ ∃ types, g.types = .ok types
        ∧ paths = types.map (typePath target) ∧ Stored target w.files types u := by
  constructor
  · intro h
    obtain ⟨w', hrun, rfl⟩ := h
    cases htypes : g.types with
    | ok types =>
      rcases performs_write target htypes w with ⟨hpaths, hstored⟩ | ⟨-, e, path, he⟩
      · rw [hrun] at hpaths hstored
        exact ⟨types, rfl, Except.ok.inj hpaths, hstored⟩
      · rw [hrun] at he
        cases he
    | error e =>
      obtain ⟨done, c, rest, lists, hvalues, hdone, hc⟩ := types_eq_error_iff.mp htypes
      rcases performs_write_error target hvalues hdone hc w with
        ⟨hfailure, -⟩ | ⟨-, e, path, he⟩
      · rw [hrun] at hfailure
        cases hfailure
      · rw [hrun] at he
        cases he
  · intro h
    obtain ⟨types, htypes, rfl, hstored⟩ := h
    rcases performs_write target htypes w with ⟨hpaths, hstored'⟩ | ⟨hnone, -⟩
    · exact ⟨_, Prod.ext hpaths rfl, hstored'.unique hstored⟩
    · exact absurd hstored (hnone u)

end Generator

/-! ## Classes of a session -/

/-- Takes the classes of the graph into a generator that knows none. -/
def Session.withClasses : SessionAction Unit := fun s =>
  if s.generator.classes.isEmpty then loadClasses s else (.ok (), s)

/-- Writing types is writing those of a generator that knows classes. -/
theorem Session.writeTypes_eq (target : String) :
    writeTypes target
      = withClasses >>= fun _ s => inWorkspace (s.generator.write target) s := by
  funext s
  have hrun : writeTypes target s
      = (if s.generator.classes.isEmpty then do
            loadClasses
            inWorkspace ((← get).generator.write target)
          else do inWorkspace ((← get).generator.write target) :
            SessionAction (List String)) s := rfl
  rw [hrun, run_bind, withClasses]
  -- How classes are loaded does not matter.
  generalize loadClasses = load
  cases s.generator.classes.isEmpty <;> rfl

/-- Types are written by the generator of the session, once it knows classes. -/
theorem Session.writeTypes_eq_ok_iff {s s' : Session} {paths : List String} :
    writeTypes target s = (.ok paths, s')
      ↔ ∃ v, withClasses s = (.ok (), v)
        ∧ ∃ w, v.generator.write target v.workspace = (.ok paths, w)
          ∧ s' = { v with workspace := w } := by
  rw [writeTypes_eq, run_bind_eq_ok_iff]
  constructor
  · intro h
    obtain ⟨_, v, hload, hwrite⟩ := h
    obtain ⟨hresult, rfl⟩ := Prod.mk.inj hwrite
    exact ⟨v, hload, _, Prod.ext hresult rfl, rfl⟩
  · intro h
    obtain ⟨v, hload, w, hwrite, rfl⟩ := h
    refine ⟨(), v, hload, ?_⟩
    rw [inWorkspace, hwrite]

/-- A session whose generator knows classes has this write them. -/
theorem Session.writeTypes_of_classes {s : Session}
    (hclasses : s.generator.classes.isEmpty = false) :
    writeTypes target s
      = ((s.generator.write target s.workspace).1,
        { s with workspace := (s.generator.write target s.workspace).2 }) := by
  rw [writeTypes_eq, run_bind, withClasses, hclasses]
  rfl

/-- A session whose generator knows classes writes their types where these can be
stored. -/
theorem Session.writeTypes_of_stored {s : Session} {types : List TypeSource}
    (hclasses : s.generator.classes.isEmpty = false) (htypes : s.generator.types = .ok types)
    (hstored : Stored target s.workspace.files types u) :
    ∃ s', writeTypes target s = (.ok (types.map (typePath target)), s')
      ∧ s'.generator = s.generator ∧ s'.workspace.files = u := by
  obtain ⟨w, hwrite, hfiles⟩ :=
    Generator.leaves_write_iff.mpr ⟨types, htypes, rfl, hstored⟩
  refine ⟨{ s with workspace := w }, ?_, rfl, hfiles⟩
  rw [writeTypes_of_classes hclasses, hwrite]

end Writing

end Ontogen
