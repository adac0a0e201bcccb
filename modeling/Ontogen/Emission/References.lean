import Ontogen.Data.Ascending
import Ontogen.Emission.Lookup
import Ontogen.Source.Member

/-!
# References to superclasses

A type refers to its direct superclasses by their simple names, and imports the
packages that these are in. Where a simple name would not tell two of them apart,
or would be the name of the type itself, the reference names the package too.
-/

namespace Ontogen.Emission

open Source (TypeReference typeName)

/-- The direct superclasses of a class, each once and without the class itself. -/
def distinctSuperclasses (c : SchemaClass) : List Uri :=
  c.superclasses.eraseDups.filter fun s => !decide (s = c.uri)

/-- The packages of the superclasses other than that of the class itself, in
ascending order. -/
def superclassPackages (c : SchemaClass) (packages : PackageMap) :
    Except EmissionError (List String) := do
  let theirs ← c.superclasses.mapM (packageOf packages)
  let own ← packageOf packages c.uri
  return (Data.ascending theirs).filter fun p => !decide (p = own)

/-- Whether a superclass has the simple name of the class itself or of another
superclass. -/
def isAmbiguous (c : SchemaClass) (superclass : Uri) : Bool :=
  typeName superclass = typeName c.uri
    || 1 < ((distinctSuperclasses c).map typeName).count (typeName superclass)

/-- The reference to a superclass. -/
def superclassReference (c : SchemaClass) (packages : PackageMap) (superclass : Uri) :
    Except EmissionError TypeReference :=
  if isAmbiguous c superclass then
    (packageOf packages superclass).map fun p => ⟨some p, typeName superclass⟩
  else .ok ⟨none, typeName superclass⟩

/-- The superclasses with the references to them, in order of declaration. -/
def superclassReferences (c : SchemaClass) (packages : PackageMap) :
    Except EmissionError (List (Uri × TypeReference)) :=
  (distinctSuperclasses c).mapM fun s => (superclassReference c packages s).map fun r => (s, r)

/-- The reference to the interface of the class itself: by its simple name unless
a superclass has that name. -/
def ownReference (c : SchemaClass) (packages : PackageMap) :
    Except EmissionError TypeReference :=
  if typeName c.uri ∈ (distinctSuperclasses c).map typeName then
    (packageOf packages c.uri).map fun p => ⟨some p, typeName c.uri⟩
  else .ok ⟨none, typeName c.uri⟩

/-- A class is none of its own superclasses. -/
theorem self_not_mem_distinctSuperclasses (c : SchemaClass) :
    c.uri ∉ distinctSuperclasses c := by
  simp [distinctSuperclasses]

end Ontogen.Emission
