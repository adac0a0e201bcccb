import Ontogen.Emission.Layout
import Ontogen.Source.CompilationUnit
import Ontogen.Text.Fill

/-!
# Interfaces and implementations

Every class gets an interface that declares the accessors of its own properties.
A class with properties of its own also gets an implementation, which implements
its interface and those of its direct superclasses. Both are put together as data
and become a compilation unit in the end.
-/

namespace Ontogen.Emission

open Source

/-- What is written for one type. -/
inductive Header where
  | interface (name : String)
  | implementation (name : String) (interfaces : List TypeReference)
  deriving DecidableEq, Repr

/-- An import of all types of a package, or of one type. -/
inductive Import where
  | package (name : String)
  | type (name : String)
  deriving DecidableEq, Repr

/-- A generated type. -/
structure TypeSource where
  package : String
  header : Header
  comment : List String
  imports : List Import
  members : List Member
  deriving DecidableEq, Repr

/-- The simple name of the type, which is also that of its file. -/
def Header.simpleName : Header → String
  | .interface name => name
  | .implementation name _ => name ++ "Impl"

/-- The declaration of the type. -/
def Header.text : Header → String
  | .interface name => "public interface " ++ name
  | .implementation name interfaces =>
    "public class " ++ name ++ "Impl implements "
      ++ String.intercalate ", " (interfaces.map TypeReference.text)

/-- All types of a package, as an import names them. -/
def wildcard (package : String) : String := package ++ ".*"

theorem wildcard_inj {p q : String} : wildcard p = wildcard q ↔ p = q :=
  String.append_left_inj ".*"

/-- An import as it is written. -/
def Import.text : Import → String
  | .package name => wildcard name
  | .type name => name

/-- What members are indented by. -/
def indent : String := "\t"

/-- The compilation unit of a type. -/
def TypeSource.unit (t : TypeSource) : CompilationUnit where
  package := t.package
  declaration := t.header.text
  comment := t.comment
  imports := t.imports.map Import.text
  members := t.members.map (Member.text indent)

/-- How implementations are generated. -/
structure EmissionOptions where
  /-- How they take in inherited properties. -/
  layout : Layout := .flatten
  /-- Whether fields are marked with the URIs of their properties. -/
  annotate : Bool := false
  /-- Whether implementations have a package of their own. -/
  separate : Bool := false
  /-- The type that the marks come from. -/
  annotationImport : String := "org.openimaj.rdf.serialize.Predicate"
  deriving DecidableEq, Repr

/-- The lines that describe a class: its comment, or its URI when it has none. -/
def classComment (c : SchemaClass) : List String :=
  match c.comment with
  | some comment => Text.wrapComment comment
  | none => [c.uri]

/-- The interface of a class. -/
def interfaceOf (c : SchemaClass) (packages : PackageMap) : Except EmissionError TypeSource := do
  let package ← packageOf packages c.uri
  return {
    package
    header := .interface (typeName c.uri)
    comment := classComment c
    imports := []
    members := c.properties.map fun p => .accessors (accessorsOf .declared p) }

/-- The last part of the package of separate implementations. -/
def implementationPart : String := "impl"

/-- The package of the implementation of a class in the given package. -/
def implementationPackage (options : EmissionOptions) (package : String) : String :=
  if options.separate then package ++ "." ++ implementationPart else package

/-- What an implementation imports: the package of its interface when it is not
in it, the annotation when it is used, and the packages of the superclasses. -/
def implementationImports (options : EmissionOptions) (package : String)
    (superclassPackages : List String) : List Import :=
  (if options.separate then [.package package] else [])
    ++ (if options.annotate then [.type options.annotationImport] else [])
    ++ superclassPackages.map .package

/-- The implementation of a class. A class without properties has none. -/
def implementationOf (options : EmissionOptions) (c : SchemaClass) (classes : ClassMap)
    (packages : PackageMap) : Except EmissionError (Option TypeSource) := do
  if c.properties.isEmpty then
    return none
  -- The first of these look-ups that fails gives the error.
  let package ← packageOf packages c.uri
  let theirs ← superclassPackages c packages
  let references ← superclassReferences c packages
  let own ← ownReference c packages
  let members ← members options.layout options.annotate c classes packages
  return some {
    package := implementationPackage options package
    header := .implementation (typeName c.uri) (own :: references.map Prod.snd)
    comment := classComment c
    imports := implementationImports options package theirs
    members }

end Ontogen.Emission
