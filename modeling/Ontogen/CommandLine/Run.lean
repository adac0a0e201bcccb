import Ontogen.CommandLine.Arguments
import Ontogen.Session

/-!
# Running a command line

The sources are read into an empty graph, in order, and the types of all their
classes are written. Every run is a session of its own; what it leaves behind are
the files.
-/

namespace Ontogen.CommandLine

open Data (OrderedMap)

/-- The packages that are fixed for their namespaces, if something is given for each. Of
several packages for one namespace the last one counts. -/
def Arguments.overrides? (a : Arguments) : Option (OrderedMap String String) :=
  (a.packages.mapM id).map OrderedMap.ofList

/-- The options that the arguments ask for. -/
def Arguments.options (a : Arguments) : GeneratorOptions where
  emission := {
    layout := if a.delegate then .delegate else .flatten
    annotate := a.annotations
    separate := a.separate }
  basePackage := a.basePackage.value?
  overrides := a.overrides?.getD ∅

/-- How a run ends. -/
inductive Ending where
  /-- All types are written. -/
  | success
  /-- Help is asked for. -/
  | help
  /-- The arguments cannot be used. -/
  | usage (e : UsageError)
  /-- The run failed. -/
  | failure (f : Failure)

/-- What stops the reading of arguments ends the run. -/
def Ending.ofStop : Stop → Ending
  | .help => .help
  | .usage e => .usage e

/-- Where the triples of a run come from. -/
inductive Origin where
  /-- From documents, which are read in order. -/
  | documents (paths : List String)
  /-- From an endpoint. -/
  | endpoint (url : String)
  deriving DecidableEq, Repr

/-- Where the arguments say that triples come from. -/
def Arguments.origin (a : Arguments) : Except UsageError Origin :=
  if a.endpoint then
    match a.sources with
    | [url] => .ok (.endpoint url)
    | _ => .error .endpointCount
  else .ok (.documents a.sources)

/-- Gets at the triples: those of documents are taken into the graph, an endpoint is only
noted. -/
def Origin.open : Origin → SessionAction Unit
  | .documents paths => paths.forM fun path => Session.loadDocument path
  | .endpoint url => Session.tell (.endpointUsed url)

/-- Fails if the triples are still to be asked for. No endpoint can be reached from
here. -/
def Origin.ask : Origin → SessionAction Unit
  | .documents _ => return ()
  | .endpoint url => throw (.unreachable url)

/-- Gets at the triples and writes the types of their classes. -/
def generate (origin : Origin) (a : Arguments) : SessionAction (List String) := do
  origin.open
  if a.overrides?.isNone then throw .packageNotGiven
  origin.ask
  Session.writeTypes a.output

/-- A run: how it ended, what it told and whether with all details, and the
workspace that it left. -/
structure RunResult where
  ending : Ending
  verbose : Bool
  workspace : Workspace

/-- The lines that a run told. -/
def RunResult.lines (r : RunResult) : List String := logLines r.verbose r.workspace.log

/-- Runs a command line in a workspace. -/
def run (w : Workspace) (arguments : List String) : RunResult :=
  let quiet := { w with told := [] }
  match parse arguments with
  | .error stop => ⟨.ofStop stop, false, quiet⟩
  | .ok a =>
    match a.origin with
    | .error e => ⟨.usage e, a.verbose, quiet⟩
    | .ok origin =>
      let session := { Session.ofOptions a.options with workspace := quiet }
      match generate origin a session with
      | (.ok _, after) => ⟨.success, a.verbose, after.workspace⟩
      | (.error f, after) => ⟨.failure f, a.verbose, after.workspace⟩

end Ontogen.CommandLine
