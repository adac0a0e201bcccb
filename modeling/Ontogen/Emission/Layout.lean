import Ontogen.Emission.References

/-!
# Laying out inherited properties

An implementation has only one superclass, so it takes in the properties of the
direct superclasses in one of two ways. The flat layout declares them as fields
of its own. The delegating layout holds an instance of each superclass and
forwards the accessors to it; the fields for these instances have names that no
own property and no earlier instance has.
-/

namespace Ontogen.Emission

open Source

/-- How an implementation takes in inherited properties. -/
inductive Layout where
  /-- As fields of its own. -/
  | flatten
  /-- By an instance of each superclass. -/
  | delegate
  deriving DecidableEq, Repr

/-! ## Members of single properties -/

/-- The field of a property. It is marked with the URI of the property when
annotations are asked for. -/
def fieldOf (annotate : Bool) (p : SchemaProperty) : PropertyField where
  javaType := p.javaType
  name := p.name
  doc := p.doc
  predicate := if annotate then some p.uri else none

/-- The accessors of a property. -/
def accessorsOf (body : AccessorBody) (p : SchemaProperty) : Accessors where
  javaType := p.javaType
  name := p.name
  suffix := p.suffix
  body := body

/-! ## The flat layout -/

/-- The properties of a class and of its direct superclasses. -/
def flatProperties (c : SchemaClass) (classes : ClassMap) :
    Except EmissionError (List SchemaProperty) := do
  let definitions ← (distinctSuperclasses c).mapM (superclassOf classes c)
  return c.properties ++ definitions.flatMap SchemaClass.properties

/-- A field for every property, then the accessors of every property. -/
def flatMembers (annotate : Bool) (c : SchemaClass) (classes : ClassMap) :
    Except EmissionError (List Member) :=
  (flatProperties c classes).map fun properties =>
    properties.map (fun p => .property (fieldOf annotate p))
      ++ properties.map (fun p => .accessors (accessorsOf .own p))

/-! ## The delegating layout -/

/-- A name with a number after it. -/
def numbered (base : String) (n : Nat) : String := base ++ n.repr

/-- The first number from `n` on with which the name is not taken. Among one
number more than there are taken names there is one, so `fuel` does not run out
when it is their count. -/
def freshNumber (taken : List String) (base : String) : Nat → Nat → Nat
  | 0, n => n
  | fuel + 1, n =>
    if numbered base n ∈ taken then freshNumber taken base fuel (n + 1) else n

/-- The name itself, or with the least number from 2 on that makes it one that is
not taken. -/
def freshName (taken : List String) (base : String) : String :=
  if base ∈ taken then numbered base (freshNumber taken base taken.length 2) else base

/-- The instance of a superclass that an implementation holds. -/
structure Holder where
  field : String
  type : TypeReference
  definition : SchemaClass
  deriving DecidableEq, Repr

/-- Gives each superclass a field, with the names in `taken` already in use. -/
def holdersFrom (c : SchemaClass) (classes : ClassMap) :
    List String → List (Uri × TypeReference) → Except EmissionError (List Holder)
  | _, [] => .ok []
  | taken, (superclass, type) :: rest => do
    let field := freshName taken (instanceName superclass)
    let definition ← superclassOf classes c superclass
    let others ← holdersFrom c classes (field :: taken) rest
    return ⟨field, type, definition⟩ :: others

/-- The instances that the implementation of a class holds, one for each direct
superclass in order of declaration. -/
def holders (c : SchemaClass) (classes : ClassMap) (packages : PackageMap) :
    Except EmissionError (List Holder) := do
  let references ← superclassReferences c packages
  holdersFrom c classes (c.properties.map SchemaProperty.name) references

/-- The field of an instance. -/
def Holder.holderField (h : Holder) : HolderField where
  typeName := typeName h.definition.uri
  type := h.type
  name := h.field

/-- The accessors that forward to an instance. -/
def Holder.forwarders (h : Holder) : List Accessors :=
  h.definition.properties.map (accessorsOf (.forward h.field))

/-- The fields of the own properties and of the instances, then the accessors of
the own properties, then those that forward. -/
def delegatingMembers (annotate : Bool) (c : SchemaClass) (classes : ClassMap)
    (packages : PackageMap) : Except EmissionError (List Member) :=
  (holders c classes packages).map fun hs =>
    c.properties.map (fun p => .property (fieldOf annotate p))
      ++ hs.map (fun h => .holder h.holderField)
      ++ c.properties.map (fun p => .accessors (accessorsOf .own p))
      ++ hs.flatMap (fun h => h.forwarders.map .accessors)

/-- The members of the implementation of a class. -/
def members (layout : Layout) (annotate : Bool) (c : SchemaClass) (classes : ClassMap)
    (packages : PackageMap) : Except EmissionError (List Member) :=
  match layout with
  | .flatten => flatMembers annotate c classes
  | .delegate => delegatingMembers annotate c classes packages

end Ontogen.Emission
