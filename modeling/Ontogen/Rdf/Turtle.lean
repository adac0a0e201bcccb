import Ontogen.Rdf.Turtle.Progress

/-!
# Turtle

A document is read turn by turn: each reads a node with what tells its role, a mark
between nodes, or a declaration of a prefix. A fault leaves the triples stated before.
-/

namespace Ontogen.Rdf.Turtle

open Vocabulary

namespace Progress

/-! ## Nodes -/

/-- Takes a keyword, a name, a URI or a literal as a node in its role. A literal is no
predicate of a step. What is none of these ends the description of a subject where a
verb may be missing. -/
def takeTerm (p : Progress) (scope : Nat) (role : Role) (s : List Char) : Turn :=
  match truth? s with
  | .error fault => p.fail fault
  | .ok (some (l, rest)) => p.accept scope (.literal l) rest role
  | .ok none =>
    match p.reference? scope s with
    | .error fault => p.fail fault
    | .ok (some (t, rest)) => p.accept scope t rest role
    | .ok none =>
      match if role.isStep then .ok none else p.literal? scope s with
      | .error fault => p.fail fault
      | .ok (some (l, rest)) => p.accept scope (.literal l) rest role
      | .ok none => if role = .verb then p.close scope s else p.fail .malformed

/-- Takes a node in its role. -/
def takeNode (p : Progress) (scope : Nat) (role : Role) (s : List Char) : Turn :=
  match s with
  | '[' :: rest =>
    match skipBlanks false rest with
    | [] => p.fail .malformed
    | c :: rest =>
      if c = '=' then p.fail .malformed else p.openBracket scope role (c :: rest)
  -- Lists of nodes are not read.
  | '(' :: rest => p.fail (if rest.isEmpty then .cutOff else .malformed)
  | s =>
    match afterKeyword? "this" s with
    | .error fault => p.fail fault
    | .ok (some _) => p.fail .malformed
    | .ok none => p.takeTerm scope role s

/-- Passes if none of some words is at the front of a text, as `after` tells. -/
def refuse (after : String → Except Fault (Option (List Char))) (words : List String) :
    Except Fault Unit :=
  words.forM fun word => do
    if (← after word).isSome then throw .malformed

/-- The marks that begin no verb although a verb might begin with their first
character. -/
def badMarks : List (List Char) := [":-".toList, "<=".toList, "=".toList, ":=".toList]

/-- The text after the keyword that stands for `rdf:type`, if it is at the front. -/
def afterTypeWord? (s : List Char) : Except Fault (Option (List Char)) := do
  if badMarks.any fun mark => mark.isPrefixOf s then throw .malformed
  refuse (afterKeyword? · s) ["has", "is"]
  afterKeyword? "a" s

/-- Takes a verb, or passes over a semicolon before one. -/
def takeVerb (p : Progress) (scope : Nat) (s : List Char) : Turn :=
  match s with
  | ';' :: rest => p.goOn rest
  | s =>
    match afterTypeWord? s with
    | .error fault => p.fail fault
    | .ok none => p.takeNode scope .verb s
    | .ok (some rest) =>
      match p.place .verb (.uri rdfType) with
      | .ok p => p.goOn rest
      | .error fault => p.fail fault

/-- Takes what stands after an object. All objects of a verb are stated at once, so a
comma puts that off. -/
def takeAfterObject (p : Progress) (scope : Nat) (s : List Char) : Turn :=
  match s with
  | ',' :: rest => { p with expected := .node .object }.goOn rest
  | ';' :: rest => { p.settle with expected := .node .verb }.goOn rest
  | s => p.settle.close scope s

/-! ## Declarations -/

/-- Declares a prefix, from what is after the word that begins the declaration: a name,
of which only the part before the colon counts, what it stands for, and a point if there
has to be one. -/
def declarePrefix (p : Progress) (scope : Nat) (pointed : Bool) (s : List Char) : Turn :=
  match name? (skipBlanks false s) with
  | .error fault => p.fail fault
  | .ok none => p.fail .malformed
  | .ok (some (name, rest)) =>
    match p.reference? scope (skipBlanks false rest) with
    | .error fault => p.fail fault
    | .ok none => p.fail .malformed
    | .ok (some (t, rest)) =>
      let p := { p with prefixes := p.prefixes.insert (String.ofList name.space) t.text }
      if pointed then
        match skipBlanks false rest with
        | '.' :: rest => p.goOn rest
        | _ => p.fail .malformed
      else p.goOn rest

/-- The text after the word that declares a prefix, if one is at the front, and whether
a point ends the declaration. What else might begin a statement and is no subject is
malformed; a base is not declared, as relative URIs are not read. -/
def afterDeclaration? (s : List Char) : Except Fault (Option (Bool × List Char)) := do
  if let some rest ← afterCommand? "prefix" s then return some (false, rest)
  refuse (afterCommand? · s) ["base"]
  refuse (afterKeyword? · s) ["bind"]
  refuse (afterMarked? · s) ["keywords", "forAll", "forSome"]
  if let some rest ← afterPrefixMark? s then return some (true, rest)
  refuse (afterMarked? · s) ["base"]
  return none

/-- Takes a declaration or the subject of a statement. -/
def takeStatement (p : Progress) (scope : Nat) (s : List Char) : Turn :=
  match afterDeclaration? s with
  | .error fault => p.fail fault
  | .ok (some (pointed, rest)) => p.declarePrefix scope pointed rest
  | .ok none => p.takeNode scope .subject s

/-! ## Documents -/

/-- Takes what comes next, from its first character. A document may end where a
statement might begin. -/
def take (p : Progress) (scope : Nat) (s : List Char) : Turn :=
  match p.expected, s with
  | .node .subject, [] => (p, .over none)
  | _, [] => p.fail .malformed
  | .node .subject, s => p.takeStatement scope s
  | .node .verb, s => p.takeVerb scope s
  | .node role, s => p.takeNode scope role s
  | .afterObject, s => p.takeAfterObject scope s

/-- Reads turn by turn. Every turn takes a character at least, so there are no more than
`fuel` of them when that is above the length of the text. -/
def run (scope : Nat) : Nat → Progress → List Char → Reading
  | 0, p, _ => { triples := p.stated.reverse, fault := some .malformed }
  | fuel + 1, p, s =>
    match p.take scope (skipBlanks false s) with
    | (p, .more rest) => run scope fuel p rest
    | (p, .over fault) => { triples := p.stated.reverse, fault }

end Progress

/-- Reads a document whose blank nodes have the given scope. A byte order mark may
begin it. -/
def read (scope : Nat) (text : String) : Reading :=
  let s := match text.toList with
    | c :: s => if c.toNat = 0xFEFF then s else c :: s
    | [] => []
  Progress.run scope (s.length + 1) {} s

end Ontogen.Rdf.Turtle
