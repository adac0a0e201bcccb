import Ontogen.Source.Member

/-!
# Signatures of accessors

A pair of accessors is known to its callers by the type of the property, by what
follows `get` and `set`, and by the name of the setter's parameter. What the two
methods do is no part of this. A text may declare the pair (`DeclaredIn`) or give
both methods a body (`ImplementedIn`), and the text of accessors does the one or
the other with their own signature. The text of a field does not implement
anything: it ends in a semicolon, whatever its comment imitates.
-/

namespace Ontogen.Source

/-- What callers see of a getter and a setter. -/
structure Signature where
  javaType : String
  suffix : String
  parameter : String
  deriving DecidableEq, Repr

namespace Signature

/-- The head of the getter. -/
def getter (s : Signature) : String := "public " ++ s.javaType ++ " get" ++ s.suffix ++ "()"

/-- The head of the setter. -/
def setter (s : Signature) : String :=
  "public void set" ++ s.suffix ++ "( final " ++ s.javaType ++ " " ++ s.parameter ++ " )"

/-- The text declares the getter and the setter. -/
def DeclaredIn (indent : String) (s : Signature) (text : String) : Prop :=
  text = joinLines
    [indent ++ "/** Returns the " ++ s.parameter ++ " */",
     indent ++ s.getter ++ ";",
     "",
     indent ++ "/** Sets the " ++ s.parameter ++ " */",
     indent ++ s.setter ++ ";"]

/-- The text gives the getter and the setter these statements as bodies. -/
def HasBodies (indent read write : String) (s : Signature) (text : String) : Prop :=
  text = joinLines
    [indent ++ "/** Returns the " ++ s.parameter ++ " */",
     indent ++ s.getter,
     indent ++ "\x7b",
     indent ++ indent ++ read,
     indent ++ "\x7d",
     "",
     indent ++ "/** Sets the " ++ s.parameter ++ " */",
     indent ++ s.setter,
     indent ++ "\x7b",
     indent ++ indent ++ write,
     indent ++ "\x7d"]

/-- The text gives the getter and the setter a body of one statement each. -/
def ImplementedIn (indent : String) (s : Signature) (text : String) : Prop :=
  ∃ read write, s.HasBodies indent read write text

/-- The getter reads a field and the setter writes it. -/
def Accesses (indent field : String) (s : Signature) (text : String) : Prop :=
  s.HasBodies indent ("return this." ++ field ++ ";")
    ("this." ++ field ++ " = " ++ s.parameter ++ ";") text

/-- The getter calls that of the instance in a field, and the setter its setter. -/
def Forwards (indent field : String) (s : Signature) (text : String) : Prop :=
  s.HasBodies indent ("return this." ++ field ++ ".get" ++ s.suffix ++ "();")
    ("this." ++ field ++ ".set" ++ s.suffix ++ "( " ++ s.parameter ++ " );") text

end Signature

/-- The text declares a field, after lines of some kind. -/
def DeclaresField (indent type name text : String) : Prop :=
  ∃ front, text = joinLines (front ++ [indent ++ "private " ++ type ++ " " ++ name ++ ";"])

/-! ## The signatures of members -/

/-- The signature of accessors, whatever these do. -/
def Accessors.signature (a : Accessors) : Signature := ⟨a.javaType, a.suffix, a.name⟩

/-- The signature that a member only declares. -/
def Member.declared? : Member → Option Signature
  | .accessors a => if a.body = .declared then some a.signature else none
  | _ => none

/-- The signature that a member implements. -/
def Member.implemented? : Member → Option Signature
  | .accessors a => if a.body = .declared then none else some a.signature
  | _ => none

/-- The name of the field that a member is. -/
def Member.fieldName? : Member → Option String
  | .property f => some f.name
  | .holder f => some f.name
  | .accessors _ => none

/-- The accessors that a member is. -/
def Member.accessors? : Member → Option Accessors
  | .accessors a => some a
  | _ => none

/-- The field for an instance that a member is. -/
def Member.holder? : Member → Option HolderField
  | .holder f => some f
  | _ => none

/-- The type of the instance that a member holds. -/
def Member.holderType? : Member → Option TypeReference
  | .holder f => some f.type
  | _ => none

/-! ## Texts of accessors -/

theorem declaredIn_text {indent : String} {a : Accessors} (h : a.body = .declared) :
    a.signature.DeclaredIn indent (Member.text indent (.accessors a)) := by
  show joinLines (a.lines indent) = _
  rw [Accessors.lines, Accessors.getStatement, Accessors.setStatement, h]
  rfl

theorem accesses_text {indent : String} {a : Accessors} (h : a.body = .own) :
    a.signature.Accesses indent a.name (Member.text indent (.accessors a)) := by
  show joinLines (a.lines indent) = _
  rw [Accessors.lines, Accessors.getStatement, Accessors.setStatement, h]
  rfl

theorem forwards_text {indent holder : String} {a : Accessors} (h : a.body = .forward holder) :
    a.signature.Forwards indent holder (Member.text indent (.accessors a)) := by
  show joinLines (a.lines indent) = _
  rw [Accessors.lines, Accessors.getStatement, Accessors.setStatement, h]
  rfl

theorem implementedIn_text {indent : String} {a : Accessors} (h : a.body ≠ .declared) :
    a.signature.ImplementedIn indent (Member.text indent (.accessors a)) := by
  cases hbody : a.body with
  | declared => exact absurd hbody h
  | own => exact ⟨_, _, accesses_text hbody⟩
  | forward holder => exact ⟨_, _, forwards_text hbody⟩

/-! ## Texts of fields -/

theorem declaresField_text_property (indent : String) (f : PropertyField) :
    DeclaresField indent f.javaType f.name (Member.text indent (.property f)) := ⟨_, rfl⟩

theorem declaresField_text_holder (indent : String) (f : HolderField) :
    DeclaresField indent f.type.text f.name (Member.text indent (.holder f)) := ⟨[_], rfl⟩

/-- Lines end as the last of them does. -/
theorem getLast?_joinLines (lines : List String) {line : String} {c : Char}
    (h : line.toList.getLast? = some c) :
    (joinLines (lines ++ [line])).toList.getLast? = some c := by
  cases lines with
  | nil => rwa [List.nil_append, joinLines, String.intercalate_singleton]
  | cons l ls =>
    rw [joinLines, String.intercalate_append_of_ne_nil (by simp) (by simp),
      String.intercalate_singleton, String.toList_append, List.getLast?_append, h]
    rfl

theorem getLast?_toList_append {s t : String} {c : Char}
    (h : t.toList.getLast? = some c) : (s ++ t).toList.getLast? = some c := by
  rw [String.toList_append, List.getLast?_append, h]
  rfl

/-- Accessors with bodies end in a brace. -/
theorem Signature.ImplementedIn.getLast? {indent text : String} {s : Signature}
    (h : s.ImplementedIn indent text) : text.toList.getLast? = some '\x7d' := by
  obtain ⟨read, write, rfl⟩ := h
  refine getLast?_joinLines [_, _, _, _, _, _, _, _, _, _] ?_
  exact getLast?_toList_append rfl

/-- A field that is no accessor implements nothing, also when its comment looks
like a method. -/
theorem not_implementedIn_text_field {indent : String} {m : Member} {name : String}
    (hm : m.fieldName? = some name) (s : Signature) :
    ¬ s.ImplementedIn indent (Member.text indent m) := by
  intro h
  have hbrace := h.getLast?
  have hsemicolon : (Member.text indent m).toList.getLast? = some ';' := by
    cases m with
    | property f =>
      show (joinLines (f.lines indent)).toList.getLast? = some ';'
      rw [PropertyField.lines]
      exact getLast?_joinLines _ (getLast?_toList_append rfl)
    | holder f =>
      show (joinLines (f.lines indent)).toList.getLast? = some ';'
      rw [HolderField.lines]
      exact getLast?_joinLines [_] (getLast?_toList_append rfl)
    | accessors a => cases hm
  rw [hsemicolon] at hbrace
  exact absurd hbrace (by decide)

end Ontogen.Source
