import Ontogen.Text.Escape
import Ontogen.Uri.Parts
import Ontogen.Workspace

/-!
# Documents of a workspace

A path names a document of the workspace. Where nothing is found under it, it may
still be the URI of a document elsewhere, which is out of reach, or a reference
that leads back to a directory.
-/

namespace Ontogen

/-- The name of a file in a reference, in which a percent sign and two digits stand for
a character. -/
def decodedName (s : List Char) : String :=
  String.ofList ((Text.codePointsFrom Text.percentEscape 0 s).map Text.ofCodePoint)

/-- What a reference leads to from the directory that it ends in when no directory on
the way is there: a path of names, or nothing. -/
def referredFile (parts : Uri.Parts) : String :=
  let place := Files.locate (String.ofList parts.path)
  let names := (place.filter fun p => p != ".." && p != "/").map fun p => decodedName p.toList
  let query := if parts.query.isEmpty then "" else "?" ++ decodedName parts.query
  String.intercalate "/" names ++ query

/-- Why a path under which there is nothing gives no document. -/
def missingDocument (path : String) : Failure :=
  match Uri.parts? path.toList with
  | none => .ontology ⟨path, "the authority of the URI is malformed"⟩
  | some parts =>
    let isLocal := parts.scheme = [] ∨ Text.lowerAll parts.scheme = "file".toList
    if parts.authority ≠ [] ∨ ¬ isLocal then .unreachable path
    else
      let file := referredFile parts
      match (Files.steps file).find? fun p => p != "." && p != ".." with
      | none => .file .isADirectory path
      | some first =>
        if file.toList.contains (Char.ofNat 0) then
          .ontology ⟨path, Files.FileError.nullCharacter.message⟩
        else
          -- Nothing is there to go into, so later names do not count.
          match Files.FileTree.checkPart first file.utf8ByteSize with
          | .error e => .file e path
          | .ok () => .file .notFound path

/-- The text of a document. -/
def Workspace.document? (w : Workspace) (path : String) : Except Failure String :=
  match w.files.read path with
  | .ok text => .ok text
  | .error .notFound => .error (missingDocument path)
  | .error e => .error (.file e path)

end Ontogen
