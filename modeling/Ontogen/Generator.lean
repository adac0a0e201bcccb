import Ontogen.Workspace

/-!
# Generators

A generator knows the classes of a schema and their packages, and writes an
interface and an implementation for each class. How packages are found is fixed
when the generator is made; the other options may change later.
-/

namespace Ontogen

open Emission (EmissionOptions)
open Data (OrderedMap)

/-- How types are generated and how their packages are found. -/
structure GeneratorOptions where
  emission : EmissionOptions := {}
  /-- A package in front of all others. -/
  basePackage : Option String := none
  /-- The packages that are fixed for their namespaces. -/
  overrides : OrderedMap String String := ∅

/-- The classes and packages that types are generated from. -/
structure Generator where
  options : GeneratorOptions
  mapper : PackageMapper
  classes : ClassMap := ∅
  packages : PackageMap := ∅

namespace Generator

/-- A generator that knows no classes yet. -/
def ofOptions (options : GeneratorOptions) : Generator where
  options := options
  mapper := { basePackage := options.basePackage, overrides := options.overrides }

instance : Inhabited Generator := ⟨ofOptions {}⟩

/-- The classes of a map and then their superclasses. -/
def mentioned (classes : ClassMap) : List Uri :=
  classes.keys ++ classes.values.flatMap SchemaClass.superclasses

/-- Takes classes and finds packages for them and their superclasses. Without
packages for all of these the generator keeps those that it had. -/
def load (g : Generator) (classes : ClassMap) : Generator × Except NamespaceError Unit :=
  match g.mapper.packageMap (mentioned classes) with
  | .ok packages => ({ g with classes, packages }, .ok ())
  | .error e => ({ g with classes }, .error e)

/-- Writes the interface of a class and its implementation if it has one. -/
def writeClass (g : Generator) (target : String) (c : SchemaClass) : Action (List String) := do
  let interface ← writeInterface target c g.packages
  let implementation ←
    writeImplementation g.options.emission target c g.classes g.packages
  return interface :: implementation.toList

/-- Writes the types of all classes and gives the paths of the files. -/
def write (g : Generator) (target : String) : Action (List String) := do
  let paths := (← g.classes.values.mapM (g.writeClass target)).flatten
  Action.tell (.typesWritten paths.length g.classes.size target)
  return paths

/-- The classes are taken whether their packages are found or not. -/
theorem load_classes (g : Generator) (classes : ClassMap) :
    (g.load classes).1.classes = classes := by
  unfold load
  split <;> rfl

/-- Loading leaves it to the mapper how packages are found. -/
theorem load_mapper (g : Generator) (classes : ClassMap) :
    (g.load classes).1.mapper = g.mapper := by
  unfold load
  split <;> rfl

end Generator

end Ontogen
