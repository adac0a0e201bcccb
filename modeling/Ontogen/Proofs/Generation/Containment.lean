import Ontogen.Proofs.Generation.SharedFiles

/-!
# Where sources are written

A type whose package is made of words has its file below the target: some directories
further down, each named by a word, and there under the name of the type (`SourcePlace`).
Every action that writes types keeps to such places (`KeepsTo`), on success and on failure:
it changes no other file, makes no directories but those that lead there, and names no
other paths. For single actions that is seen from what they do, and it is kept when one
follows another (`KeepsTo.bind`), so it holds of writing all types
(`Generator.keepsTo_write`).
-/

namespace Ontogen

open Data (run_bind bind_eq_ok_iff)
open Emission (TypeSource EmissionOptions interfaceOf implementationOf)
open Files (FileTree Location IsPlain)

/-! ## Places of sources -/

/-- Where a source is below a target: the names of the directories that lead there, of which
there is at least one, and the name of its type. -/
structure SourcePlace where
  names : List String
  type : String
  names_ne_nil : names ≠ []
  isWord_names : ∀ name ∈ names, IsWord isPackageChar name
  isWord_type : IsWord Source.isIdentifierChar type

/-- The package and the name of a type are made of words. -/
structure IsPlaced (t : TypeSource) : Prop where
  isPlainPackage : IsPlainPackage t.package
  isWord_name : IsWord Source.isIdentifierChar t.header.simpleName

namespace SourcePlace

/-- The names of the directories and the name of the file. -/
def parts (p : SourcePlace) : List String := p.names ++ [p.type ++ ".java"]

/-- The path of a source: the target, the names of directories, and the file. -/
def path (p : SourcePlace) (target : String) : String :=
  target ++ Files.slashAfter target ++ String.intercalate "/" p.parts

/-- The place of a source in a tree of files. -/
def location (p : SourcePlace) (target : String) : Location := Files.locate target ++ p.parts

/-- The place of a type. -/
def ofType (t : TypeSource) (h : IsPlaced t) : SourcePlace where
  names := Files.pointParts t.package
  type := t.header.simpleName
  names_ne_nil := Files.pointParts_ne_nil _
  isWord_names := h.isPlainPackage
  isWord_type := h.isWord_name

variable (p : SourcePlace)

theorem isPlain_of_mem_names : ∀ name ∈ p.names, IsPlain name :=
  fun name hname => (p.isWord_names name hname).isPlain rfl rfl

theorem isPlain_file : IsPlain (p.type ++ ".java") :=
  isPlain_append_java (p.isWord_type.not_mem rfl)

theorem isPlain_of_mem_parts : ∀ name ∈ p.parts, IsPlain name := by
  intro name hname
  rcases List.mem_append.mp hname with hname | hname
  · exact p.isPlain_of_mem_names name hname
  · rw [List.mem_singleton.mp hname]
    exact p.isPlain_file

theorem joinParts_parts (target : String) :
    Files.joinPath (Files.joinParts target p.names) (p.type ++ ".java") = p.path target := by
  rw [← Files.joinParts_concat, path]
  exact Files.joinParts_eq (List.append_ne_nil_of_right_ne_nil _ (List.cons_ne_nil _ _))
    p.isPlain_of_mem_parts

theorem locate_path (target : String) : Files.locate (p.path target) = p.location target := by
  rw [← joinParts_parts, ← Files.joinParts_concat]
  exact Files.locate_joinParts p.isPlain_of_mem_parts

end SourcePlace

/-- The path is one of a source below the target. -/
def IsSourcePath (target path : String) : Prop := ∃ p : SourcePlace, path = p.path target

/-! ## Changes below a target -/

/-- What differs between two states of a workspace is below the target: the files that
changed, and the paths of files of which it is told that they were written. Directories that
are new lead there. -/
structure Confined (target : String) (w w' : Workspace) : Prop where
  files : ∀ l, w'.files.files.find? l ≠ w.files.files.find? l →
    ∃ p : SourcePlace, l = p.location target
  directories : ∀ l, w'.files.isDirectory l = true → w.files.isDirectory l = true
    ∨ FileTree.OnWay target l
    ∨ ∃ (p : SourcePlace) (n : Nat), l = Files.locate target ++ p.names.take n
  told : ∀ path, .fileWritten path ∈ w'.told →
    .fileWritten path ∈ w.told ∨ IsSourcePath target path

namespace Confined

variable {target : String} {w w' w'' : Workspace}

theorem refl (target : String) (w : Workspace) : Confined target w w where
  files := fun _ h => absurd rfl h
  directories := fun _ => Or.inl
  told := fun _ => Or.inl

theorem trans (h : Confined target w w') (h' : Confined target w' w'') :
    Confined target w w'' where
  files := by
    intro l hl
    by_cases hchanged : w''.files.files.find? l = w'.files.files.find? l
    · rw [hchanged] at hl
      exact h.files l hl
    · exact h'.files l hchanged
  directories := fun l hl => (h'.directories l hl).elim (h.directories l) Or.inr
  told := fun path hpath => (h'.told path hpath).elim (h.told path) Or.inr

/-- Telling of anything but files leaves the files alone. -/
theorem tell {e : Event} (he : ∀ path, e ≠ .fileWritten path) :
    Confined target w { w with told := e :: w.told } where
  files := fun _ h => absurd rfl h
  directories := fun _ => Or.inl
  told := by
    intro path hpath
    rcases List.mem_cons.mp hpath with h | h
    · exact absurd h.symm (he path)
    · exact Or.inl h

end Confined

/-! ## Actions that keep to a target -/

/-- An action changes a workspace below the target alone, also when it fails, and a failure to
reach a file is about one there. Its results are as `P` says. -/
structure KeepsTo {α : Type} (target : String) (x : Action α) (P : α → Prop) : Prop where
  confined : ∀ w, Confined target w (x w).2
  result : ∀ w a, (x w).1 = .ok a → P a
  failure : ∀ w e path, (x w).1 = .error (.file e path) → IsSourcePath target path

namespace KeepsTo

variable {α β : Type} {target : String} {P : α → Prop} {Q : β → Prop}

theorem pure {a : α} (h : P a) : KeepsTo target (Pure.pure a) P where
  confined := fun w => .refl target w
  result := fun _ _ ha => Except.ok.inj ha ▸ h
  failure := fun _ _ _ h => by cases h

theorem tell {e : Event} (he : ∀ path, e ≠ .fileWritten path) :
    KeepsTo target (Action.tell e) fun _ => True where
  confined := fun _ => .tell he
  result := fun _ _ _ => trivial
  failure := fun _ _ _ h => by cases h

theorem ofExcept {ε : Type} {failure : ε → Failure} {x : Except ε α}
    (hx : ∀ a, x = .ok a → P a) (hfailure : ∀ e e' path, failure e ≠ .file e' path) :
    KeepsTo target (Action.ofExcept failure x) P := by
  cases x with
  | ok a => exact .pure (hx a rfl)
  | error e =>
    constructor
    · exact fun w => .refl target w
    · intro w a h
      cases h
    · intro w e' path h
      exact absurd (Except.error.inj h) (hfailure e e' path)

/-- Two actions keep to a target when the first does, and the second for what that comes to. -/
theorem bind {x : Action α} {f : α → Action β} (hx : KeepsTo target x P)
    (hf : ∀ a, P a → KeepsTo target (f a) Q) : KeepsTo target (x >>= f) Q := by
  have hcases : ∀ w, (∃ e, (x w).1 = .error e ∧ (x >>= f) w = (.error e, (x w).2))
      ∨ ∃ a, P a ∧ (x >>= f) w = f a (x w).2 := by
    intro w
    rw [run_bind]
    cases h : (x w).1 with
    | error e => exact Or.inl ⟨e, rfl, rfl⟩
    | ok a => exact Or.inr ⟨a, hx.result w a h, rfl⟩
  constructor
  · intro w
    rcases hcases w with ⟨e, -, h⟩ | ⟨a, ha, h⟩
    · rw [h]
      exact hx.confined w
    · rw [h]
      exact (hx.confined w).trans ((hf a ha).confined _)
  · intro w b hb
    rcases hcases w with ⟨e, -, h⟩ | ⟨a, ha, h⟩
    · rw [h] at hb
      cases hb
    · rw [h] at hb
      exact (hf a ha).result _ b hb
  · intro w e path he
    rcases hcases w with ⟨e', he', h⟩ | ⟨a, ha, h⟩
    · rw [h] at he
      obtain rfl := Except.error.inj he
      exact hx.failure w e path he'
    · rw [h] at he
      exact (hf a ha).failure _ e path he

theorem mapM {f : α → Action β} {xs : List α} (h : ∀ x ∈ xs, KeepsTo target (f x) Q) :
    KeepsTo target (xs.mapM f) fun ys => ∀ y ∈ ys, Q y := by
  induction xs with
  | nil => exact .pure fun y hy => by cases hy
  | cons x xs ih =>
    obtain ⟨hx, hxs⟩ := List.forall_mem_cons.mp h
    rw [List.mapM_cons]
    exact hx.bind fun y hy => (ih hxs).bind fun ys hys =>
      .pure (List.forall_mem_cons.mpr ⟨hy, hys⟩)

end KeepsTo

/-! ## Writing types -/

/-- Whatever stands in its way, a type is written to its place. -/
theorem confined_write {target : String} {t : TypeSource} (h : IsPlaced t) {w w' : Workspace}
    (hfiles : w'.files = (w.files.write (packageDirectory target t.package) (fileName t)
      t.unit.text).1)
    (htold : ∀ path, .fileWritten path ∈ w'.told →
      .fileWritten path ∈ w.told ∨ path = typePath target t) : Confined target w w' := by
  have hpath : typePath target t = (SourcePlace.ofType t h).path target :=
    (SourcePlace.ofType t h).joinParts_parts target
  obtain ⟨hothers, hdirectories⟩ := FileTree.write_frame (packageDirectory target t.package)
    (SourcePlace.ofType t h).isPlain_file w.files t.unit.text
  constructor
  · intro l hl
    -- A file at no place of a source is none that the write reaches.
    by_contra hplace
    refine hl ?_
    rw [hfiles]
    refine hothers l fun heq => hplace ⟨.ofType t h, ?_⟩
    rw [heq, ← SourcePlace.locate_path, ← hpath]
    rfl
  · intro l hl
    rw [hfiles] at hl
    refine (hdirectories l hl).imp_right fun hway => ?_
    refine (FileTree.OnWay.joinParts ?_ hway).imp_right fun hbelow => ⟨.ofType t h, hbelow⟩
    exact (SourcePlace.ofType t h).isPlain_of_mem_names
  · intro path hwritten
    exact (htold path hwritten).imp_right fun heq => ⟨.ofType t h, heq.trans hpath⟩

/-- Writing a type keeps to the target. -/
theorem keepsTo_writeType {target : String} {t : TypeSource} (h : IsPlaced t) :
    KeepsTo target (writeType target t) (IsSourcePath target) := by
  have hpath : IsSourcePath target (typePath target t) :=
    ⟨.ofType t h, (SourcePlace.ofType t h).joinParts_parts target⟩
  constructor
  · intro w
    rw [writeType, Action.writeFile_run]
    split
    next files hwrite =>
      refine confined_write h (congrArg Prod.fst hwrite).symm fun path hwritten => ?_
      rcases List.mem_cons.mp hwritten with heq | hbefore
      · exact Or.inr (Event.fileWritten.inj heq)
      · exact Or.inl hbefore
    next files e hwrite =>
      exact confined_write h (congrArg Prod.fst hwrite).symm fun _ => Or.inl
  · intro w path hok
    rw [writeType, Action.writeFile_run] at hok
    split at hok
    next => rwa [← Except.ok.inj hok]
    next => cases hok
  · intro w e path he
    rw [writeType, Action.writeFile_run] at he
    split at he
    next => cases he
    next =>
      obtain ⟨-, rfl⟩ := Failure.file.inj (Except.error.inj he)
      exact hpath

/-! ## Writing classes -/

/-- All packages are made of words. -/
def PlainPackages (packages : PackageMap) : Prop :=
  ∀ uri package, packages.find? uri = some package → IsPlainPackage package

section Classes

variable {target : String} {c : SchemaClass} {packages : PackageMap}

theorem isPlaced_interfaceOf (hpackages : PlainPackages packages) {i : TypeSource}
    (h : interfaceOf c packages = .ok i) : IsPlaced i := by
  obtain ⟨package, hpackage, rfl⟩ := Emission.interfaceOf_eq_ok_iff.mp h
  exact ⟨hpackages _ _ hpackage, isWord_typeName c.uri⟩

theorem isPlaced_implementationOf {options : EmissionOptions} {classes : ClassMap}
    (hpackages : PlainPackages packages) {m : TypeSource}
    (h : implementationOf options c classes packages = .ok (some m)) : IsPlaced m := by
  obtain ⟨-, r, rfl⟩ := Emission.implementationOf_eq_ok_some_iff.mp h
  have himpl : IsWord Source.isIdentifierChar "Impl" := by decide +kernel
  exact ⟨(hpackages _ _ r.find?_package).implementationPackage options,
    (isWord_typeName c.uri).append himpl⟩

theorem keepsTo_writeInterface (hpackages : PlainPackages packages) :
    KeepsTo target (writeInterface target c packages) (IsSourcePath target) := by
  refine KeepsTo.bind (.ofExcept (fun i => isPlaced_interfaceOf hpackages) ?_) fun i hi => ?_
  · exact fun _ _ _ => Failure.noConfusion
  · exact keepsTo_writeType hi

theorem keepsTo_writeImplementation {options : EmissionOptions} {classes : ClassMap}
    (hpackages : PlainPackages packages) :
    KeepsTo target (writeImplementation options target c classes packages)
      fun path => ∀ p ∈ path, IsSourcePath target p := by
  have hplaced : ∀ m, implementationOf options c classes packages = .ok m →
      ∀ type ∈ m, IsPlaced type := by
    intro m hm type htype
    obtain rfl := Option.mem_def.mp htype
    exact isPlaced_implementationOf hpackages hm
  refine KeepsTo.bind (.ofExcept hplaced ?_) fun m hm => ?_
  · exact fun _ _ _ => Failure.noConfusion
  cases m with
  | some type =>
    refine (keepsTo_writeType (hm type rfl)).bind fun path hpath => .pure ?_
    intro p hp
    rwa [← Option.some.inj hp]
  | none =>
    refine KeepsTo.bind (.tell ?_) fun _ _ => .pure ?_
    · exact fun _ => Event.noConfusion
    · intro p hp
      cases hp

end Classes

namespace Generator

variable {g : Generator} {target : String}

theorem keepsTo_writeClass (hpackages : PlainPackages g.packages) (c : SchemaClass) :
    KeepsTo target (g.writeClass target c)
      fun paths => ∀ path ∈ paths, IsSourcePath target path := by
  refine (keepsTo_writeInterface hpackages).bind fun i hi => ?_
  refine (keepsTo_writeImplementation hpackages).bind fun m hm => .pure ?_
  exact List.forall_mem_cons.mpr ⟨hi, fun path hpath => hm path (Option.mem_toList.mp hpath)⟩

/-- Writing with packages that are made of words keeps to the target. -/
theorem keepsTo_write (hpackages : PlainPackages g.packages) (target : String) :
    KeepsTo target (g.write target) fun paths => ∀ path ∈ paths, IsSourcePath target path := by
  refine (KeepsTo.mapM fun c _ => keepsTo_writeClass hpackages c).bind fun lists hlists => ?_
  refine KeepsTo.bind (.tell ?_) fun _ _ => .pure ?_
  · exact fun _ => Event.noConfusion
  · intro path hpath
    obtain ⟨paths, hpaths, hmem⟩ := List.mem_flatten.mp hpath
    exact hlists paths hpaths path hmem

end Generator

end Ontogen
