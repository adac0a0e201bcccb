import Ontogen.Uri.Name

/-!
# Members of generated types

The members of a type are the fields for properties, the fields that hold an
instance of a superclass, and pairs of accessors. An accessor is only declared,
or it reads and writes the field of its property, or it forwards to the instance
that another field holds. Members are data until they are written as lines.
-/

namespace Ontogen.Source

/-- The end of a line between the lines of a text. -/
def joinLines (lines : List String) : String := String.intercalate "\n" lines

/-- A type by its simple name, or with its package in front. -/
structure TypeReference where
  package : Option String := none
  name : String
  deriving DecidableEq, Repr

/-- The reference as it is written. -/
def TypeReference.text (r : TypeReference) : String :=
  match r.package with
  | some package => package ++ "." ++ r.name
  | none => r.name

/-- The field for a property, with the URI of the property if it is marked with
it. -/
structure PropertyField where
  javaType : String
  name : String
  doc : String
  predicate : Option Uri := none
  deriving DecidableEq, Repr

/-- A field that holds an instance of a superclass. -/
structure HolderField where
  typeName : String
  type : TypeReference
  name : String
  deriving DecidableEq, Repr

/-- What the accessors of a property do. -/
inductive AccessorBody where
  /-- They are declared without a body. -/
  | declared
  /-- They read and write the field of the property. -/
  | own
  /-- They call the accessors of the instance in a field. -/
  | forward (holder : String)
  deriving DecidableEq, Repr

/-- The getter and the setter of a property. -/
structure Accessors where
  javaType : String
  name : String
  suffix : String
  body : AccessorBody
  deriving DecidableEq, Repr

/-- A member of a generated type. -/
inductive Member where
  | property (f : PropertyField)
  | holder (f : HolderField)
  | accessors (a : Accessors)
  deriving DecidableEq, Repr

/-- The lines of a field for a property. -/
def PropertyField.lines (indent : String) (f : PropertyField) : List String :=
  [indent ++ "/** " ++ f.doc ++ " */"]
    ++ (f.predicate.map fun uri => indent ++ "@Predicate(\"" ++ uri ++ "\")").toList
    ++ [indent ++ "private " ++ f.javaType ++ " " ++ f.name ++ ";"]

/-- The lines of a field that holds an instance. -/
def HolderField.lines (indent : String) (f : HolderField) : List String :=
  [indent ++ "/** " ++ f.typeName ++ " instance */",
   indent ++ "private " ++ f.type.text ++ " " ++ f.name ++ ";"]

/-- The statement that a getter consists of, if it has a body. -/
def Accessors.getStatement (a : Accessors) : Option String :=
  match a.body with
  | .declared => none
  | .own => some ("return this." ++ a.name ++ ";")
  | .forward holder => some ("return this." ++ holder ++ ".get" ++ a.suffix ++ "();")

/-- The statement that a setter consists of, if it has a body. -/
def Accessors.setStatement (a : Accessors) : Option String :=
  match a.body with
  | .declared => none
  | .own => some ("this." ++ a.name ++ " = " ++ a.name ++ ";")
  | .forward holder => some ("this." ++ holder ++ ".set" ++ a.suffix ++ "( " ++ a.name ++ " );")

/-- The lines of a method: its head alone, or with a statement in braces. -/
def methodLines (indent head : String) : Option String → List String
  | none => [indent ++ head ++ ";"]
  | some statement =>
    [indent ++ head, indent ++ "\x7b", indent ++ indent ++ statement, indent ++ "\x7d"]

/-- The lines of a getter and a setter, with an empty line between them. -/
def Accessors.lines (indent : String) (a : Accessors) : List String :=
  (indent ++ "/** Returns the " ++ a.name ++ " */")
    :: methodLines indent ("public " ++ a.javaType ++ " get" ++ a.suffix ++ "()") a.getStatement
    ++ [""]
    ++ (indent ++ "/** Sets the " ++ a.name ++ " */")
    :: methodLines indent
        ("public void set" ++ a.suffix ++ "( final " ++ a.javaType ++ " " ++ a.name ++ " )")
        a.setStatement

/-- The lines of a member. -/
def Member.lines (indent : String) : Member → List String
  | .property f => f.lines indent
  | .holder f => f.lines indent
  | .accessors a => a.lines indent

/-- A member as text, without an end of line after it. -/
def Member.text (indent : String) (m : Member) : String := joinLines (m.lines indent)

end Ontogen.Source
