import Ontogen.Text.Casing
import Ontogen.Uri.Name

/-!
# Identifiers of the generated sources

A name becomes an identifier when every character that may not stand in one is
replaced by an underscore, and an underscore is put in front of a text that
would be empty, begin with a digit or be a reserved word.
-/

namespace Ontogen.Source

/-- The words that may not name anything. -/
def reservedWords : List String :=
  ["abstract", "assert", "boolean", "break", "byte", "case", "catch", "char", "class", "const",
   "continue", "default", "do", "double", "else", "enum", "extends", "final", "finally",
   "float", "for", "goto", "if", "implements", "import", "instanceof", "int", "interface",
   "long", "native", "new", "package", "private", "protected", "public", "return", "short",
   "static", "strictfp", "super", "switch", "synchronized", "this", "throw", "throws",
   "transient", "try", "void", "volatile", "while", "true", "false", "null"]

/-- Whether a text is a reserved word. -/
def isReserved (s : List Char) : Bool := (reservedWords.map String.toList).contains s

/-- The characters of identifiers: ASCII letters and digits, `_` and `$`. -/
def isIdentifierChar (c : Char) : Bool := c.isAlphanum || c == '_' || c == '$'

/-- The character itself, or an underscore for one that may not stand in an
identifier. -/
def identifierChar (c : Char) : Char := if isIdentifierChar c then c else '_'

/-- Whether a text of such characters still needs an underscore in front. -/
def needsMark : List Char → Bool
  | [] => true
  | c :: s => c.isDigit || isReserved (c :: s)

/-- Puts an underscore in front of a text that needs it. -/
def mark (s : List Char) : List Char := if needsMark s then '_' :: s else s

/-- The identifier for a name. -/
def identifierChars (s : List Char) : List Char := mark (s.map identifierChar)

/-- The identifier for a name. -/
def identifier (name : String) : String := String.ofList (identifierChars name.toList)

/-- A name with its first character in lower case. -/
def lowerFirst (name : String) : String := String.ofList (Text.lowerFirst name.toList)

/-- A name with its first character in upper case. -/
def upperFirst (name : String) : String := String.ofList (Text.upperFirst name.toList)

/-- The simple name of the type that is generated for a class. -/
def typeName (uri : Uri) : String := identifier (Uri.localName uri)

/-- The name of a field that holds an instance of a class. -/
def instanceName (uri : Uri) : String :=
  let name := lowerFirst (typeName uri)
  if isReserved name.toList then "_" ++ name else name

theorem isIdentifierChar_identifierChar (c : Char) :
    isIdentifierChar (identifierChar c) = true := by
  by_cases h : isIdentifierChar c
  · rw [identifierChar, if_pos h, h]
  · rw [identifierChar, if_neg h]; decide

/-- A character of identifiers is left as it is. -/
theorem identifierChar_of_isIdentifierChar {c : Char} (h : isIdentifierChar c = true) :
    identifierChar c = c := by simp [identifierChar, h]

/-- Every character of an identifier may stand in one. -/
theorem all_isIdentifierChar_identifierChars (s : List Char) :
    (identifierChars s).all isIdentifierChar = true := by
  have hmap : (s.map identifierChar).all isIdentifierChar = true := by
    simp [isIdentifierChar_identifierChar]
  rw [identifierChars, mark]
  split
  · rw [List.all_cons, hmap]; decide
  · exact hmap

/-- A character that may not stand in identifiers is in none. -/
theorem not_mem_identifier {c : Char} (hc : isIdentifierChar c = false) (name : String) :
    c ∉ (identifier name).toList := by
  intro h
  rw [identifier, String.toList_ofList] at h
  have hall := List.all_eq_true.mp (all_isIdentifierChar_identifierChars name.toList) c h
  rw [hc] at hall
  cases hall

end Ontogen.Source
