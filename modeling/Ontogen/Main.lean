import Ontogen.CommandLine.Run

/-!
# The program

Reads the documents that the command line names, runs it, and puts the files that
were written onto the disk. Events and messages go to the error stream.
-/

namespace Ontogen

/-- How the program is called. -/
def usageText : String :=
  "usage: ontogen [-h] -o OUTPUT [--endpoint] [--delegate] [--annotations] [--separate-impl]\n"
    ++ "               [--base-package BASE_PACKAGE] [--package NAMESPACE=PACKAGE] [-v]\n"
    ++ "               sources [sources ...]"

/-- The exit code of an ending. -/
def CommandLine.Ending.code : CommandLine.Ending → UInt32
  | .success | .help => 0
  | .usage _ => 2
  | .failure _ => 1

/-- What is said at an ending. -/
def CommandLine.Ending.message? : CommandLine.Ending → Option String
  | .success => none
  | .help => some usageText
  | .usage e => some (usageText ++ "\nontogen: error: " ++ e.message)
  | .failure f => some ("ontogen: " ++ f.message)

/-- The workspace with the documents that are on the disk. -/
def readDocuments (paths : List String) : IO Workspace :=
  paths.foldlM (fun w (path : String) => do
    match ← (IO.FS.readFile path).toBaseIO with
    | .ok text => return w.give path text
    -- The run will report that there is no such document.
    | .error _ => return w) {}

/-- Puts files onto the disk, with the directories that lead to them. -/
def writeFiles (files : List (Files.Location × String)) : IO Unit :=
  files.forM fun (place, text) => do
    IO.FS.createDirAll (Files.joinPath "." (Files.Location.path place.dropLast))
    IO.FS.writeFile place.path text

/-- Runs a command line on the disk. -/
def runOnDisk (arguments : List String) : IO UInt32 := do
  let sources := match CommandLine.parse arguments with
    | .ok a => a.sources
    | .error _ => []
  let result := CommandLine.run (← readDocuments sources) arguments
  result.lines.forM fun line => IO.eprintln line
  writeFiles result.workspace.written
  match result.ending.message? with
  | some message => IO.eprintln message
  | none => pure ()
  return result.ending.code

end Ontogen

def main (arguments : List String) : IO UInt32 := Ontogen.runOnDisk arguments
