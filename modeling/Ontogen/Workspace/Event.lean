import Ontogen.Schema.Class

/-!
# Events

What a run tells about its work. Some events are details, which are told only
when they are asked for.
-/

namespace Ontogen

/-- Something that happened during a run. -/
inductive Event where
  /-- So many rows came back for a kind of class. -/
  | classRows (count : Nat) (marker : Uri)
  /-- So many classes are loaded. -/
  | classesLoaded (count : Nat)
  /-- A document was read into the graph, which now has so many triples. -/
  | documentLoaded (path : String) (triples : Nat)
  /-- The graph of an endpoint is used. -/
  | endpointUsed (url : String)
  /-- A file was written. -/
  | fileWritten (path : String)
  /-- A class has no properties and so no implementation. -/
  | implementationSkipped (uri : Uri)
  /-- The types of all classes are written. -/
  | typesWritten (files classes : Nat) (target : String)
  deriving DecidableEq, Repr

namespace Event

/-- Whether an event is a detail. -/
def isDetail : Event → Bool
  | .classRows .. | .fileWritten .. | .implementationSkipped .. => true
  | _ => false

/-- The text that tells of an event. -/
def text : Event → String
  | .classRows count marker =>
    "[class_def] " ++ count.repr ++ " results for " ++ marker
  | .classesLoaded count => "[class_def] Loaded " ++ count.repr ++ " classes"
  | .documentLoaded path triples =>
    "[repository] Loaded " ++ path ++ " (" ++ triples.repr ++ " triples in graph)"
  | .endpointUsed url => "[repository] Using SPARQL endpoint " ++ url
  | .fileWritten path => "[emitter] Wrote " ++ path
  | .implementationSkipped uri =>
    "[emitter] No properties in " ++ uri ++ ", skipping implementation"
  | .typesWritten files classes target =>
    "[generator] Wrote " ++ files.repr ++ " files for " ++ classes.repr ++ " classes to "
      ++ target

end Event

/-- What is told when classes are loaded. -/
def ClassLoad.events (l : ClassLoad) : List Event :=
  l.rowCounts.map (fun r => .classRows r.2 r.1) ++ [.classesLoaded l.classes.size]

/-- The lines that an event is told in: more than one when a name in it has line
feeds. -/
def Event.lines (e : Event) : List String := (e.text.toList.splitOn '\n').map String.ofList

/-- The lines of a log, with or without the details. -/
def logLines (verbose : Bool) (log : List Event) : List String :=
  (log.filter fun e => verbose || !e.isDetail).flatMap Event.lines

end Ontogen
