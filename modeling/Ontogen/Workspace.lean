import Ontogen.Emission.TypeSource
import Ontogen.Workspace.Event
import Ontogen.Workspace.Failure

/-!
# Workspaces

A run reads and writes files and tells what it does. Both stay when it fails: what
was written until then is there, and what was told has been told.
-/

namespace Ontogen

open Files (FileTree Location)
open Emission (TypeSource EmissionOptions)

/-- The files of a run and what it has told, the last event first. -/
structure Workspace where
  files : FileTree := ∅
  /-- The places of the files that were there before. -/
  given : List Location := []
  told : List Event := []

namespace Workspace

/-- Puts a file into the workspace that is not the work of the run. -/
def give (w : Workspace) (path text : String) : Workspace :=
  { w with files := w.files.place path text, given := Files.locate path :: w.given }

/-- The files that are the work of runs, by their places. -/
def written (w : Workspace) : List (Location × String) :=
  w.files.files.entries.filter fun e => !w.given.contains e.1

/-- The files that are the work of runs and are in the working directory or below
it, by their paths. -/
def output (w : Workspace) : List (String × String) :=
  (w.written.filter fun e => e.1.isInside).map fun e => (e.1.path, e.2)

/-- What was told, in order. -/
def log (w : Workspace) : List Event := w.told.reverse

end Workspace

/-- Something done in a workspace, with a result or a failure. -/
abbrev Action := ExceptT Failure (StateM Workspace)

namespace Action

/-- Tells an event. -/
def tell (e : Event) : Action Unit := modify fun w => { w with told := e :: w.told }

/-- Takes a result that needs no workspace. -/
def ofExcept {ε α : Type} (failure : ε → Failure) : Except ε α → Action α
  | .ok a => pure a
  | .error e => throw (failure e)

/-- Writes a file into a directory, which is made if it is not there, and gives its
path. -/
def writeFile (directory name text : String) : Action String := do
  let path := Files.joinPath directory name
  let w ← get
  let (files, result) := w.files.write directory name text
  set { w with files }
  ofExcept (fun e => .file e path) result
  tell (.fileWritten path)
  return path

end Action

/-- The directory that the types of a package are kept in. -/
def packageDirectory (target package : String) : String :=
  Files.joinParts target (Files.pointParts package)

/-- The name of the file of a type. -/
def fileName (t : TypeSource) : String := t.header.simpleName ++ ".java"

/-- The path that a type is written to. -/
def typePath (target : String) (t : TypeSource) : String :=
  Files.joinPath (packageDirectory target t.package) (fileName t)

/-- Writes a type. -/
def writeType (target : String) (t : TypeSource) : Action String :=
  Action.writeFile (packageDirectory target t.package) (fileName t) t.unit.text

/-- Writes the interface of a class. -/
def writeInterface (target : String) (c : SchemaClass) (packages : PackageMap) :
    Action String := do
  let type ← Action.ofExcept .emission (Emission.interfaceOf c packages)
  writeType target type

/-- Writes the implementation of a class, if it has one. -/
def writeImplementation (options : EmissionOptions) (target : String) (c : SchemaClass)
    (classes : ClassMap) (packages : PackageMap) : Action (Option String) := do
  match ← Action.ofExcept .emission (Emission.implementationOf options c classes packages) with
  | some type => return some (← writeType target type)
  | none =>
    Action.tell (.implementationSkipped c.uri)
    return none

end Ontogen
