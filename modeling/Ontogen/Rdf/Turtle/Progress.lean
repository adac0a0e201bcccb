import Ontogen.Data.OrderedMap
import Ontogen.Rdf.Turtle.Literal

/-!
# How far a Turtle document is read

The subjects whose description is not over form a stack: at its bottom that of the
statement, above it those of the blank nodes between brackets. What may come next is
the next node, or what stands after an object. The triples of one predicate are
stated together, as soon as it is known that no further object follows; those of a
path at once.
-/

namespace Ontogen.Rdf.Turtle

open Data (OrderedMap)
open Vocabulary

/-- What a node is in the statement around it. -/
inductive Role where
  | subject
  | verb
  | object
  /-- The predicate of a step of a path, forwards or backwards, from one node to another,
  which has a role in turn. -/
  | step (start : Term) (backward : Bool) (target : Term) (next : Role)
  deriving DecidableEq, Repr

/-- Whether a node is the predicate of a step. -/
def Role.isStep : Role → Bool
  | .step .. => true
  | _ => false

/-- A subject whose description is not over. -/
structure Clause where
  subject : Term
  verb : Term := .uri rdfType
  /-- The objects of the verb that are not yet stated, the last one first. -/
  objects : List Term := []
  /-- The role of the subject outside the brackets, if it is described in some. -/
  bracketRole : Option Role := none
  deriving DecidableEq, Repr

/-- What may come next. -/
inductive Expectation where
  /-- A node. Where it is a subject, a prefix may be declared instead; where it is
  a verb, the description may be over. -/
  | node (role : Role)
  /-- Another object, or what ends the objects of a verb. -/
  | afterObject
  deriving DecidableEq, Repr

/-- How far a document is read. -/
structure Progress where
  expected : Expectation := .node .subject
  /-- The subjects whose description is not over, the innermost first. -/
  clauses : List Clause := []
  /-- The URIs that prefixes stand for. -/
  prefixes : OrderedMap String Uri := ∅
  /-- The number of blank nodes without a label. -/
  anonymous : Nat := 0
  /-- The triples stated so far, the last one first. -/
  stated : List Triple := []

/-- How it goes on with a document. -/
inductive Next where
  /-- The text is what is left to read. -/
  | more (rest : List Char)
  /-- The document is over, at its end or at a fault. -/
  | over (fault : Option Fault)
  deriving DecidableEq, Repr

/-- How far a document is read after a turn, and how it goes on. -/
abbrev Turn := Progress × Next

namespace Progress

/-- The turn that a fault ends. -/
def fail (p : Progress) (fault : Fault) : Turn := (p, .over (some fault))

/-- The turn after which a text is left to read. -/
def goOn (p : Progress) (rest : List Char) : Turn := (p, .more rest)

/-! ## Nodes -/

/-- The label of a blank node that the document gives none. No label that is
written has brackets. -/
def anonymousLabel (n : Nat) : String := "[" ++ n.repr ++ "]"

/-- A blank node without a label. -/
def newBlank (p : Progress) (scope : Nat) : Term × Progress :=
  (.blank ⟨scope, anonymousLabel p.anonymous⟩, { p with anonymous := p.anonymous + 1 })

/-- States a triple. -/
def state (p : Progress) (t : Triple) : Progress := { p with stated := t :: p.stated }

/-- Puts a node into its role. -/
def place (p : Progress) (role : Role) (t : Term) : Except Fault Progress :=
  match role, p.clauses with
  | .subject, clauses =>
    .ok { p with expected := .node .verb, clauses := { subject := t } :: clauses }
  | .verb, clause :: clauses =>
    .ok { p with expected := .node .object, clauses := { clause with verb := t } :: clauses }
  | .object, clause :: clauses =>
    .ok { p with
      expected := .afterObject
      clauses := { clause with objects := t :: clause.objects } :: clauses }
  | _, _ => .error .malformed

/-- Accepts a node in its role, from what is after it. A mark right after the node makes
it the start of a path, which leads to a blank node in its place. -/
def accept (p : Progress) (scope : Nat) (t : Term) (rest : List Char) : Role → Turn
  | .step start backward target next =>
    let p := p.state (if backward then ⟨target, t, start⟩ else ⟨start, t, target⟩)
    p.accept scope target rest next
  | role =>
    match rest with
    | [] => p.fail .cutOff
    | c :: s =>
      if c = '!' ∨ c = '^' then
        let (target, p) := p.newBlank scope
        { p with expected := .node (.step t (c == '^') target role) }.goOn s
      else
        match p.place role t with
        | .ok p => p.goOn rest
        | .error fault => p.fail fault

/-- The number of brackets that may be open at once. -/
def bracketLimit : Nat := 121

/-- The number of brackets that are open. -/
def openBrackets (p : Progress) : Nat := p.clauses.countP fun c => c.bracketRole.isSome

/-- Begins the description of a blank node between brackets. -/
def openBracket (p : Progress) (scope : Nat) (role : Role) (rest : List Char) : Turn :=
  let (subject, p) := p.newBlank scope
  if bracketLimit ≤ p.openBrackets then p.fail .tooDeep
  else { p with
    expected := .node .verb
    clauses := { subject, bracketRole := some role } :: p.clauses }.goOn rest

/-- Ends the description of the innermost subject, by a point for a statement and by a
bracket otherwise. -/
def close (p : Progress) (scope : Nat) (s : List Char) : Turn :=
  match s, p.clauses with
  | '.' :: rest, ⟨_, _, _, none⟩ :: clauses =>
    { p with expected := .node .subject, clauses }.goOn rest
  | ']' :: rest, ⟨subject, _, _, some role⟩ :: clauses =>
    { p with clauses }.accept scope subject rest role
  | _, _ => p.fail .malformed

/-- States the triples of the verb whose objects are complete. -/
def settle (p : Progress) : Progress :=
  match p.clauses with
  | clause :: clauses =>
    { p with
      clauses := { clause with objects := [] } :: clauses
      stated := clause.objects.map (fun o => ⟨clause.subject, clause.verb, o⟩) ++ p.stated }
  | [] => p

/-! ## References and literals -/

/-- The node that a name stands for. -/
def resolve (p : Progress) (scope : Nat) (name : Name) : Except Fault Term :=
  let localPart := String.ofList name.localPart
  match p.prefixes.find? (String.ofList name.space) with
  | some uri => .ok (.uri (uri ++ localPart))
  | none =>
    if name.space = blankSpace then .ok (.blank ⟨scope, localPart⟩) else .error .malformed

/-- The node at the front of a text that a name or a URI gives. -/
def reference? (p : Progress) (scope : Nat) (s : List Char) : Found Term :=
  match name? s with
  | .error fault => .error fault
  | .ok (some (name, rest)) => (p.resolve scope name).map fun t => some (t, rest)
  | .ok none =>
    match s with
    | '<' :: s => (bracketedUri s).map fun found => some (.uri found.1, found.2)
    | '?' :: s => .error (variableFault s)
    | _ => .ok none

/-- The literal of a text, from what is after its quotes: perhaps the tag of its
language, then perhaps its datatype, which makes the tag count for nothing. -/
def afterQuotes (p : Progress) (scope : Nat) (text : String) (s : List Char) :
    Except Fault (Literal × List Char) :=
  match s with
  | [] => .error .cutOff
  | c :: s =>
    let tag := if c = '@' then tagSpan Char.isAlphanum s else []
    let rest := if c = '@' then s.drop tag.length else c :: s
    if c = '@' ∧ tag = [] then .error .malformed
    else if rest.take 2 = ['^', '^'] then
      match p.reference? scope (skipBlanks false (rest.drop 2)) with
      | .error fault => .error fault
      | .ok none => .error .cutOff
      | .ok (some (datatype, rest)) => .ok (.typed text datatype.text, rest)
    else if c ≠ '@' then .ok ({ text }, rest)
    else if isLanguageTag tag then .ok ({ text, language := some (String.ofList tag) }, rest)
    else .error .badValue

/-- A number or a text at the front of a text. -/
def literal? (p : Progress) (scope : Nat) (s : List Char) : Found Literal :=
  match number? s with
  | some (number, rest) => number.literal.map fun l => some (l, rest)
  | none =>
    match quoted? s with
    | .error fault => .error fault
    | .ok none => .ok none
    | .ok (some (text, rest)) => (p.afterQuotes scope text rest).map some

end Progress

end Ontogen.Rdf.Turtle
