import Ontogen.Source.Member

/-!
# Compilation units

A source file is a package line, the imports, a doc comment, and a declaration
with members between braces. Every part is written on lines of its own, and an
empty line follows the package, the imports if there are any, and each member.
-/

namespace Ontogen.Source

/-- The parts of a source file as texts. -/
structure CompilationUnit where
  package : String
  declaration : String
  comment : List String := []
  imports : List String := []
  members : List String := []
  deriving DecidableEq, Repr

namespace CompilationUnit

/-- The lines of the imports, with an empty line after them if there are any. -/
def importLines (imports : List String) : List String :=
  imports.map (fun name => "import " ++ name ++ ";") ++ (if imports.isEmpty then [] else [""])

/-- The lines of the doc comment. -/
def commentLines (comment : List String) : List String :=
  "/**" :: comment.map (" * " ++ ·) ++ [" */"]

/-- The texts that are written with an end of line after each of them. -/
def lines (u : CompilationUnit) : List String :=
  ["package " ++ u.package ++ ";", ""]
    ++ importLines u.imports
    ++ commentLines u.comment
    ++ [u.declaration, "\x7b"]
    ++ u.members.flatMap (fun m => [m, ""])
    ++ ["\x7d"]

/-- The text of the source file. -/
def text (u : CompilationUnit) : String := String.join (u.lines.map (· ++ "\n"))

end CompilationUnit

end Ontogen.Source
