import Ontogen.Data.OrderedMap
import Ontogen.Files.Path
import Ontogen.Text.Escape

/-!
# Trees of files

The files and directories that a program sees and makes, as a value. Directories
are made along a path as needed; a file that is written replaces one of the same
name. What stands in the way is an error.
-/

namespace Ontogen.Files

open Data (OrderedMap)

/-- Why a file or a directory cannot be reached. -/
inductive FileError where
  /-- There is nothing of that name, or the name is empty. -/
  | notFound
  /-- A file stands where a directory is passed through. -/
  | notADirectory
  /-- A file stands where a directory is wanted. -/
  | alreadyExists
  /-- A directory stands where a file is wanted. -/
  | isADirectory
  /-- A name is longer than names may be. -/
  | nameTooLong
  /-- A path has the null character. -/
  | nullCharacter
  /-- There are more directories to make than can be made at once. -/
  | tooDeep
  /-- A text has half of a surrogate pair, which cannot be stored. -/
  | halfCharacter
  deriving DecidableEq, Repr

/-- What stands in the way of reaching a file. -/
def FileError.message : FileError → String
  | .notFound => "no such file or directory"
  | .notADirectory => "not a directory"
  | .alreadyExists => "a file is there"
  | .isADirectory => "is a directory"
  | .nameTooLong => "the name is too long"
  | .nullCharacter => "the path has a null character"
  | .tooDeep => "too many directories are missing"
  | .halfCharacter => "the text has half of a character"

/-- The directories and the files with their texts. -/
structure FileTree where
  directories : List Location := []
  files : OrderedMap Location String := ∅

namespace FileTree

/-- A tree without files. -/
def empty : FileTree := {}

instance : EmptyCollection FileTree := ⟨empty⟩

instance : Inhabited FileTree := ⟨empty⟩

/-- Whether a place is a directory. The working directory, the directories around
it and the root are. -/
def isDirectory (t : FileTree) (l : Location) : Bool := l.isAround || t.directories.contains l

/-- Whether a place is a file. -/
def isFile (t : FileTree) (l : Location) : Bool := t.files.contains l

/-- The number of bytes that a name may have. -/
def nameLimit : Nat := 255

/-- The number of bytes that a path may have. -/
def pathLimit : Nat := 4095

/-- Whether a path can end with a part after so many bytes. -/
def checkEnd (part : String) (bytes : Nat) : Except FileError Unit :=
  if part.toList.contains (Char.ofNat 0) then .error .nullCharacter
  else if pathLimit < bytes then .error .nameTooLong
  else .ok ()

/-- Whether a text can be the part of a path that ends after so many bytes. -/
def checkPart (part : String) (bytes : Nat) : Except FileError Unit := do
  checkEnd part bytes
  if nameLimit < part.utf8ByteSize then .error .nameTooLong

/-- The number of bytes of a path that goes on with a part after so many bytes. -/
def bytesThrough (bytes : Nat) (part : String) : Nat :=
  bytes + part.utf8ByteSize + (if bytes = 0 then 0 else 1)

/-- Why no directory can be made at the end of a path at whose last part but one, after so
many bytes, a file stands. -/
def behindFile (bytes : Nat) (part : String) : FileError :=
  match checkEnd part (bytesThrough bytes part) with
  | .error e => e
  | .ok () => .notADirectory

/-- Goes along the steps of a path from a place and makes the directories that
are not there. The number is that of the bytes of the path until there. The tree
comes back also when that fails. -/
def makeAlong (t : FileTree) (l : Location) (bytes : Nat) :
    List String → FileTree × Except FileError Location
  | [] => (t, .ok l)
  | part :: rest =>
    let next := Location.step l part
    let bytes := bytesThrough bytes part
    match checkPart part bytes with
    | .error e => (t, .error e)
    | .ok () =>
      -- What lies around a directory that is there is there too.
      if part = "." ∨ part = ".." then makeAlong t next bytes rest
      else if t.isFile next then
        (t, .error (match rest with
          | [] => .alreadyExists
          | after :: _ => behindFile bytes after))
      else if t.isDirectory next then makeAlong t next bytes rest
      else makeAlong { t with directories := t.directories ++ [next] } next bytes rest

/-- The number of steps of a path from the first one on that leads to nothing, as far as
a path can be followed. -/
def missingSteps (t : FileTree) (l : Location) (bytes : Nat) : List String → Nat
  | [] => 0
  | part :: rest =>
    let next := Location.step l part
    let bytes := bytesThrough bytes part
    if bytes ≤ pathLimit ∧ t.isDirectory next then missingSteps t next bytes rest
    else rest.length + 1

/-- The number of directories that can be made at once. -/
def makingLimit : Nat := 985

/-- Makes the directories of a path. -/
def makeDirectories (t : FileTree) (path : String) : FileTree × Except FileError Location :=
  if path = "" then (t, .error .notFound)
  else if makingLimit < t.missingSteps (start path) 0 (steps path) then (t, .error .tooDeep)
  else t.makeAlong (start path) 0 (steps path)

/-- The place of a file that can be written in the directory of a path that is there. -/
def fileIn (t : FileTree) (l : Location) (directory name : String) :
    Except FileError Location := do
  checkPart name (joinPath directory name).utf8ByteSize
  if t.isDirectory (l ++ [name]) then .error .isADirectory else .ok (l ++ [name])

/-- Stores a text at a place. What cannot be stored leaves an empty file there. -/
def store (t : FileTree) (l : Location) (text : String) : FileTree × Except FileError Unit :=
  if text.toList.any fun c => (Text.half? c).isSome then
    ({ t with files := t.files.insert l "" }, .error .halfCharacter)
  else ({ t with files := t.files.insert l text }, .ok ())

/-- Writes a file, making the directories that lead to it. -/
def write (t : FileTree) (directory name text : String) : FileTree × Except FileError Unit :=
  match t.makeDirectories directory with
  | (t, .error e) => (t, .error e)
  | (t, .ok l) =>
    match t.fileIn l directory name with
    | .error e => (t, .error e)
    | .ok l => t.store l text

/-- Puts a file at the end of a path, with the directories that the path passes
through. Where that cannot be done there is no file. -/
def place (t : FileTree) (path text : String) : FileTree :=
  let (directory, name) := splitLast path
  (t.write (if directory = "" then "." else directory) name text).1

/-- Whether a path passes through directories alone. -/
def isReachable (t : FileTree) (path : String) : Bool :=
  let passed := (steps path).dropLast
  path.utf8ByteSize ≤ pathLimit
    && (List.range (passed.length + 1)).all fun n =>
      t.isDirectory ((passed.take n).foldl Location.step (start path))

/-- The text of a file. -/
def read (t : FileTree) (path : String) : Except FileError String :=
  let l := locate path
  if path = "" ∨ !t.isReachable path then .error .notFound
  else if t.isDirectory l then .error .isADirectory
  else if path.toList.getLast? = some '/' then .error .notFound
  else
    match t.files.find? l with
    | some text => .ok text
    | none => .error .notFound

end FileTree

end Ontogen.Files
