import Ontogen.Xml.Piece

/-!
# XML fragments

A text is a fragment when its tags match, the names of attributes in a tag differ and
every name before a colon is bound to a namespace. Fragments are written in one form:
an element without content as an empty tag, with the bindings before the other
attributes.
-/

namespace Ontogen.Xml

/-! ## Namespaces -/

/-- The name that binds, alone or before a colon. -/
def bindingName : List Char := "xmlns".toList

/-- The name that is always bound. -/
def xmlName : List Char := "xml".toList

/-- The namespace of the names that XML itself has. -/
def xmlNamespace : List Char := "http://www.w3.org/XML/1998/namespace".toList

/-- The namespace of bindings, to which nothing else is bound. -/
def bindingNamespace : List Char := "http://www.w3.org/2000/xmlns/".toList

/-- The names before colons with the namespaces that they are bound to, the innermost
binding first. The empty name is that of names without a colon. -/
abbrev Bindings := List (List Char × List Char)

/-- What an attribute binds, if it is a binding. -/
def Attribute.binding? (a : Attribute) : Option (List Char × List Char) :=
  if a.name.space = bindingName then some (a.name.localPart, a.value)
  else if a.name = ⟨[], bindingName⟩ then some ([], a.value)
  else none

/-- Whether a name can be bound to a namespace. -/
def canBind (space namespaceUri : List Char) : Bool :=
  space != bindingName && namespaceUri != bindingNamespace
    && (space == xmlName) == (namespaceUri == xmlNamespace)
    && (space.isEmpty || !namespaceUri.isEmpty)
    && !namespaceUri.contains ' '

/-- The namespace of a name with a colon. -/
def Bindings.namespace? (b : Bindings) (n : Name) : Option (List Char) :=
  if n.space = xmlName then some xmlNamespace else b.lookup n.space

/-- The attributes with their namespaces, if all of these are bound. Only an attribute
with a colon has one. -/
def expanded? (b : Bindings) (attributes : List Attribute) :
    Option (List (List Char × List Char)) :=
  attributes.mapM fun a =>
    if a.name.space = [] then some ([], a.name.localPart)
    else (b.namespace? a.name).map (·, a.name.localPart)

/-- Whether the names of a tag are those of one element, where the names of its
attributes and the namespaces are known. -/
def tagOk (b : Bindings) (name : Name) (attributes : List Attribute) : Bool :=
  let others := attributes.filter fun a => a.binding?.isNone
  (attributes.filterMap Attribute.binding?).all (fun p => canBind p.1 p.2)
    && decide (attributes.map (·.name)).Nodup
    && (name.space.isEmpty || (b.namespace? name).isSome)
    && match expanded? b others with
      | some names => decide names.Nodup
      | none => false

/-! ## Fragments -/

/-- Whether pieces go on with open elements and close them all. The elements come with
the bindings in them, the innermost first. -/
def fits : List (Name × Bindings) → List Piece → Bool
  | opened, [] => opened.isEmpty
  | opened, .opening name attributes :: rest =>
    let outer := (opened.head?.map (·.2)).getD []
    let inner := attributes.filterMap Attribute.binding? ++ outer
    tagOk inner name attributes && fits ((name, inner) :: opened) rest
  | (name, _) :: opened, .closing last :: rest => name == last && fits opened rest
  | [], .closing _ :: _ => false
  | opened, _ :: rest => fits opened rest

/-- The pieces of a fragment. -/
def fragment? (s : List Char) : Option (List Piece) :=
  (pieces? s).filter (fits [])

/-! ## Writing -/

/-- A character in text or in the value of an attribute. -/
def escaped (c : Char) : List Char :=
  match c with
  | '&' => "&amp;".toList
  | '<' => "&lt;".toList
  | '"' => "&quot;".toList
  | '>' => "&gt;".toList
  | c => [c]

/-- An attribute with a space before it. -/
def Attribute.written (a : Attribute) : List Char :=
  ' ' :: a.name.text ++ '=' :: '"' :: a.value.flatMap escaped ++ ['"']

/-- What stands in a tag. -/
def tagText (name : Name) (attributes : List Attribute) : List Char :=
  let (bindings, others) := attributes.partition fun a => a.binding?.isSome
  name.text ++ (bindings ++ others).flatMap Attribute.written

/-- A piece as it is written where its tag is not empty. -/
def Piece.written : Piece → List Char
  | .opening name attributes => '<' :: tagText name attributes ++ ['>']
  | .closing name => '<' :: '/' :: name.text ++ ['>']
  | .text content => content.flatMap escaped
  | .verbatim content => "<![CDATA[".toList ++ content ++ "]]>".toList
  | .comment content => "<!--".toList ++ content ++ "-->".toList
  | .instruction target content =>
    "<?".toList ++ target ++ ' ' :: content ++ "?>".toList

/-- Pieces as they are written. -/
def writtenAll : List Piece → List Char
  | .opening name attributes :: .closing _ :: rest =>
    '<' :: tagText name attributes ++ '/' :: '>' :: writtenAll rest
  | piece :: rest => piece.written ++ writtenAll rest
  | [] => []

/-- The form in which a fragment is written. -/
def canonical? (s : List Char) : Option (List Char) := (fragment? s).map writtenAll

example : canonical? "<b x='1'></b>a>b".toList = some "<b x=\"1\"/>a&gt;b".toList := by
  decide +kernel
example : canonical? "<b><i></b></i>".toList = none := by decide +kernel
example : canonical? "<p:b/>".toList = none := by decide +kernel

end Ontogen.Xml
