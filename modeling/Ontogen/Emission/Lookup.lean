import Ontogen.Package
import Ontogen.Schema.Class

/-!
# Looking up classes and packages

Types are generated from a map of classes and a map of packages, which need not
fit together. What is missing is an error that names the class in question.
-/

namespace Ontogen.Emission

/-- Why a type cannot be generated. -/
inductive EmissionError where
  /-- The class has no package. -/
  | missingPackage (uri : Uri)
  /-- The superclass of the class has no definition. -/
  | unresolvedSuperclass (uri superclass : Uri)
  deriving DecidableEq, Repr

/-- The text of an error. -/
def EmissionError.message : EmissionError → String
  | .missingPackage uri =>
    "No Java package is mapped for class " ++ uri
      ++ ". Was the package map built for all classes and their superclasses?"
  | .unresolvedSuperclass uri superclass =>
    "Superclass " ++ superclass ++ " of " ++ uri ++ " is not a loaded class definition."

/-- The package of a class. -/
def packageOf (packages : PackageMap) (uri : Uri) : Except EmissionError String :=
  match packages.find? uri with
  | some package => .ok package
  | none => .error (.missingPackage uri)

/-- The definition of a superclass of a class. -/
def superclassOf (classes : ClassMap) (c : SchemaClass) (superclass : Uri) :
    Except EmissionError SchemaClass :=
  match classes.find? superclass with
  | some definition => .ok definition
  | none => .error (.unresolvedSuperclass c.uri superclass)

theorem packageOf_eq_ok_iff {packages : PackageMap} {uri : Uri} {package : String} :
    packageOf packages uri = .ok package ↔ packages.find? uri = some package := by
  unfold packageOf
  split <;> simp_all

theorem superclassOf_eq_ok_iff {classes : ClassMap} {c : SchemaClass} {superclass : Uri}
    {definition : SchemaClass} :
    superclassOf classes c superclass = .ok definition
      ↔ classes.find? superclass = some definition := by
  unfold superclassOf
  split <;> simp_all

end Ontogen.Emission
