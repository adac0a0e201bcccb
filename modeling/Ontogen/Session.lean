import Ontogen.Generator
import Ontogen.Schema.Query
import Ontogen.Workspace.Document

/-!
# Sessions

A session has a graph, a generator that takes its classes from the graph, and a
workspace. Documents are read into the graph and types are written into the
workspace. What an action that fails has done until then stays.
-/

namespace Ontogen

open Rdf (Triple)

/-- A graph, a generator and a workspace. -/
structure Session where
  graph : Rdf.Graph := ∅
  /-- The number of documents read. Each is a scope of blank nodes. -/
  documents : Nat := 0
  generator : Generator
  workspace : Workspace := {}

/-- Something done in a session, with a result or a failure. -/
abbrev SessionAction := ExceptT Failure (StateM Session)

namespace Session

/-- A session with an empty graph and a generator that knows no classes. -/
def ofOptions (options : GeneratorOptions) : Session where
  generator := .ofOptions options

instance : Inhabited Session := ⟨ofOptions {}⟩

/-- Does something in the workspace of the session. -/
def inWorkspace {α : Type} (action : Action α) : SessionAction α := fun s =>
  let (result, workspace) := action s.workspace
  (result, { s with workspace })

/-- Tells an event. -/
def tell (e : Event) : SessionAction Unit := inWorkspace (Action.tell e)

/-- The failure that reports a fault in a document. -/
def faultFailure (path : String) (format : Option DocumentFormat) (fault : Rdf.Fault) :
    Failure :=
  match FaultReport.of format fault with
  | .ontology reason => .ontology ⟨path, reason⟩
  | .unreadable => .unreadable path
  | .broken => .broken fault path

/-- Reads a document into the graph, in the given format or the one that its path
tells. The triples before a fault stay in the graph. -/
def loadDocument (path : String) (format : Option DocumentFormat := none) :
    SessionAction Unit := do
  let text ← ExceptT.mk (do return (← get).workspace.document? path)
  let format := format <|> DocumentFormat.guess? path
  -- A document with a fault counts too: its triples and its scope are used.
  let s ← get
  let reading := (format.getD .turtle).read (s.documents + 1) text
  set { s with
    graph := s.graph.addAll reading.triples
    documents := s.documents + 1 }
  match reading.fault with
  | some fault => throw (faultFailure path format fault)
  | none => tell (.documentLoaded path (← get).graph.size)

/-- Takes the classes of the graph into the generator. -/
def loadClasses : SessionAction Unit := do
  let s ← get
  let load := s.graph.loadClasses
  -- That the classes are loaded is told before packages are looked for.
  load.events.forM tell
  let (generator, result) := s.generator.load load.classes
  modify fun s => { s with generator }
  match result with
  | .ok () => return ()
  | .error e => throw (.package e)

/-- Writes the types of all classes. The classes are taken from the graph first
when the generator knows none. -/
def writeTypes (target : String) : SessionAction (List String) := do
  if (← get).generator.classes.isEmpty then
    loadClasses
  inWorkspace ((← get).generator.write target)

end Session

end Ontogen
