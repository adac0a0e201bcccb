import Ontogen.Session

/-!
# Steps of a session

What can be done in a session one after the other, as data. Every step has an
answer or a failure, and what was told during it; a failure does not keep later
steps from being done.
-/

namespace Ontogen

open Rdf (Triple)
open Data (OrderedMap)

/-- A new value of an option. -/
inductive OptionChange where
  | flatten (value : Bool)
  | annotate (value : Bool)
  | separate (value : Bool)
  | annotationImport (value : String)
  | basePackage (value : Option String)
  | overrides (value : OrderedMap String String)

/-- Options with a new value. -/
def OptionChange.apply (o : GeneratorOptions) : OptionChange → GeneratorOptions
  | .flatten value =>
    { o with emission := { o.emission with layout := if value then .flatten else .delegate } }
  | .annotate value => { o with emission := { o.emission with annotate := value } }
  | .separate value => { o with emission := { o.emission with separate := value } }
  | .annotationImport value => { o with emission := { o.emission with annotationImport := value } }
  | .basePackage value => { o with basePackage := value }
  | .overrides value => { o with overrides := value }

/-- A step of a session. -/
inductive Step where
  /-- Adds triples to the graph. -/
  | add (triples : List Triple)
  /-- Removes triples from the graph. -/
  | remove (triples : List Triple)
  /-- Reads a document, which is put into the workspace first when its text is
  given. -/
  | loadDocument (path : String) (text : Option String) (format : Option DocumentFormat)
  /-- Asks the graph. -/
  | ask (query : Query)
  /-- Takes the classes of the graph into the generator. -/
  | loadClasses
  /-- Shows the classes and packages of the generator. -/
  | showState
  /-- Writes the types of all classes. -/
  | write (target : String)
  /-- Shows the files that were written. -/
  | files
  /-- Changes an option of the generator. -/
  | setOption (change : OptionChange)
  /-- Adds a fixed package to the options. -/
  | fixInOptions (ns package : String)
  /-- Adds a fixed package to those that packages are found by. -/
  | fixInMapper (ns package : String)
  /-- Forgets all classes. -/
  | clearClasses
  /-- Forgets a class. -/
  | dropClass (uri : Uri)
  /-- Forgets the package of a class. -/
  | dropPackage (uri : Uri)

/-- The answer to a step. -/
inductive Answer where
  /-- The number of triples in the graph. -/
  | size (triples : Nat)
  /-- What the graph answered. -/
  | rows (answer : QueryAnswer)
  /-- The classes and packages of the generator. -/
  | state (classes : List SchemaClass) (packages : List (Uri × String))
  /-- The paths of the files that were written. -/
  | written (paths : List String)
  /-- The files that were written, with their texts. -/
  | files (files : List (String × String))
  /-- Nothing to say. -/
  | done

namespace Session

/-- The classes and packages of the generator. -/
def generatorState (s : Session) : Answer :=
  .state s.generator.classes.values s.generator.packages.entries

/-- Changes the generator. -/
def changeGenerator (change : Generator → Generator) : SessionAction Answer := do
  modify fun s => { s with generator := change s.generator }
  return .done

/-- Changes the graph. -/
def changeGraph (change : Rdf.Graph → Rdf.Graph) : SessionAction Answer := do
  modify fun s => { s with graph := change s.graph }
  return .size (← get).graph.size

/-- Does a step. -/
def perform : Step → SessionAction Answer
  | .add triples => changeGraph (·.addAll triples)
  | .remove triples => changeGraph (·.removeAll triples)
  | .loadDocument path text format => do
    if let some text := text then
      modify fun s => { s with workspace := s.workspace.give path text }
    loadDocument path format
    return .size (← get).graph.size
  | .ask query => return .rows ((← get).graph.answer query)
  | .loadClasses => do
    loadClasses
    return (← get).generatorState
  | .showState => return (← get).generatorState
  | .write target => return .written (← writeTypes target)
  | .files => return .files (← get).workspace.output
  | .setOption change => changeGenerator fun g => { g with options := change.apply g.options }
  | .fixInOptions ns package =>
    changeGenerator fun g =>
      { g with options := { g.options with overrides := g.options.overrides.insert ns package } }
  | .fixInMapper ns package =>
    changeGenerator fun g =>
      { g with mapper := { g.mapper with overrides := g.mapper.overrides.insert ns package } }
  | .clearClasses => changeGenerator fun g => { g with classes := ∅ }
  | .dropClass uri => do
    if (← get).generator.classes.contains uri then
      changeGenerator fun g => { g with classes := g.classes.erase uri }
    else throw (.absent uri)
  | .dropPackage uri => do
    if (← get).generator.packages.contains uri then
      changeGenerator fun g => { g with packages := g.packages.erase uri }
    else throw (.absent uri)

/-- What a step came to, and what was told during it. -/
structure StepResult where
  outcome : Except Failure Answer
  log : List Event

/-- Does a step and takes what was told during it. -/
def step (s : Session) (t : Step) : Session × StepResult :=
  let quiet := { s with workspace := { s.workspace with told := [] } }
  let (outcome, after) := perform t quiet
  (after, { outcome, log := after.workspace.log })

/-- Does steps one after the other. -/
def run (s : Session) : List Step → List StepResult
  | [] => []
  | t :: ts => (s.step t).2 :: run (s.step t).1 ts

end Session

end Ontogen
