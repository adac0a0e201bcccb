import Ontogen.Text.Cut

/-!
# Paths

A path is a text whose parts are separated by slashes. Joining puts a slash
between two paths unless one is there, and a path that begins with a slash
replaces what is before it. The location of a path is what it names from the
working directory: the parts that are left when empty parts and points are
dropped and each double point has taken back the part before it.
-/

namespace Ontogen.Files

/-- Joins two paths. -/
def joinPath (path part : String) : String :=
  if part.toList.head? = some '/' then part
  else if path = "" ∨ path.toList.getLast? = some '/' then path ++ part
  else path ++ "/" ++ part

/-- Joins a path and several parts. -/
def joinParts (path : String) (parts : List String) : String := parts.foldl joinPath path

/-- The parts of a text between points. -/
def pointParts (s : String) : List String := (s.toList.splitOn '.').map String.ofList

/-- The parts of a path that are not empty. -/
def steps (path : String) : List String :=
  ((path.toList.splitOn '/').map String.ofList).filter (· != "")

/-- The directory and the name that a path consists of: what is before its last slash
and what is after it. -/
def splitLast (path : String) : String × String :=
  let s := path.toList
  let name := Text.afterLast '/' s
  (String.ofList (s.take (s.length - name.length)), String.ofList name)

/-- A place in a tree of files: the names of the directories that lead there from
the working directory, or from the root when the first of them is a slash. -/
abbrev Location := List String

/-- One step from a place. A point leads nowhere and a double point back; from the
working directory it leads out of it, and from the root nowhere. -/
def Location.step (l : Location) (part : String) : Location :=
  if part = "." then l
  else if part = ".." then
    match l.getLast? with
    | none => [".."]
    | some ".." => l ++ [".."]
    | some "/" => l
    | some _ => l.dropLast
  else l ++ [part]

/-- Where a path begins. -/
def start (path : String) : Location := if path.toList.head? = some '/' then ["/"] else []

/-- The place that a path names. -/
def locate (path : String) : Location := (steps path).foldl Location.step (start path)

/-- Whether a place is the working directory, a directory around it, or the root. -/
def Location.isAround (l : Location) : Bool := l.all fun p => p == ".." || p == "/"

/-- Whether a place is in the working directory or below it. -/
def Location.isInside (l : Location) : Bool := l.head? != some ".." && l.head? != some "/"

/-- The path from the working directory to a place, or from the root. -/
def Location.path : Location → String
  | "/" :: parts => "/" ++ String.intercalate "/" parts
  | parts => String.intercalate "/" parts

/-- A path without empty parts and points. Two slashes at its front stay, and a
path without parts is a point. -/
def tidy (path : String) : String :=
  let slashes := (path.toList.takeWhile (· == '/')).length
  let root := if slashes = 0 then "" else if slashes = 2 then "//" else "/"
  let text := root ++ String.intercalate "/" ((steps path).filter (· != "."))
  if text = "" then "." else text

example : tidy "a//b/./c/" = "a/b/c" := by decide +kernel
example : tidy "//x" = "//x" ∧ tidy "///x" = "/x" ∧ tidy "" = "." := by decide +kernel
example : locate "out/../x//y" = ["x", "y"] := by decide +kernel

end Ontogen.Files
