import Ontogen.Data.OrderedMap
import Ontogen.Source.Identifier
import Ontogen.Uri.Parts

/-!
# Packages

Every class gets the package of its namespace: one that was fixed for that
namespace, or the one derived from it. The derived package is the host turned
around, without a leading `www`, and the segments of the path, each in lower case
and made an identifier; a base package may go in front.
-/

namespace Ontogen

open Data (OrderedMap)

/-- The namespace cannot be taken apart. -/
structure NamespaceError where
  ns : String
  deriving DecidableEq, Repr

/-- The packages of classes by their URIs. -/
abbrev PackageMap := OrderedMap Uri String

/-- How packages are found: what goes in front of all of them, and those that
are fixed for their namespaces. -/
structure PackageMapper where
  basePackage : Option String := none
  overrides : OrderedMap String String := ∅

namespace PackageMapper

/-- The labels of a host from the last to the first, without a leading `www`. -/
def hostLabels (host : List Char) : List (List Char) :=
  let labels := (host.splitOn '.').filter fun l => !l.isEmpty
  (if labels.head? = some "www".toList then labels.drop 1 else labels).reverse

/-- The segments of a path. Without a host a colon separates segments too. -/
def segments (hasHost : Bool) (path : List Char) : List (List Char) :=
  (path.splitOnP fun c => c == '/' || c == '#' || (c == ':' && !hasHost)).filter
    fun s => !s.isEmpty

/-- A label or a segment as a part of a package. -/
def packagePart (s : List Char) : String :=
  String.ofList (Source.identifierChars (Text.lowerAll s))

/-- The parts of the package of a namespace. -/
def packageParts (ns : String) : Except NamespaceError (List String) :=
  match Uri.parts? ns.toList with
  | some parts =>
    let host := parts.host
    .ok ((hostLabels host ++ segments (!host.isEmpty) parts.path).map packagePart)
  | none => .error ⟨ns⟩

/-- The package when neither host, path nor base gives one. -/
def defaultPackage : String := "ontology"

/-- The parts of the base package, none if it is empty. -/
def baseParts (m : PackageMapper) : List String :=
  match m.basePackage with
  | some base => if base = "" then [] else [base]
  | none => []

/-- The package of a class. -/
def packageFor (m : PackageMapper) (uri : Uri) : Except NamespaceError String :=
  let ns := Uri.namespaceOf uri
  match m.overrides.find? ns with
  | some package => .ok package
  | none =>
    (packageParts ns).map fun parts =>
      let package := String.intercalate "." (m.baseParts ++ parts)
      if package = "" then defaultPackage else package

/-- The packages of some classes, in the order in which these come first. -/
def packageMap (m : PackageMapper) (uris : List Uri) : Except NamespaceError PackageMap :=
  uris.foldlM (fun packages uri => (m.packageFor uri).map (packages.insert uri)) ∅

end PackageMapper

end Ontogen
