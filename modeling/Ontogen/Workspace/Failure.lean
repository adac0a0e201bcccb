import Ontogen.Emission.Lookup
import Ontogen.Files.Tree
import Ontogen.Ontology

/-!
# Failures

Why a run, or a step of it, comes to no result.
-/

namespace Ontogen

/-- Why something was not done. -/
inductive Failure where
  /-- A type cannot be generated. -/
  | emission (error : Emission.EmissionError)
  /-- A class gets no package. -/
  | package (error : NamespaceError)
  /-- A file or a directory cannot be reached. -/
  | file (error : Files.FileError) (path : String)
  /-- A document cannot be loaded. -/
  | ontology (error : OntologyError)
  /-- A document cannot be read in any format that is expected. -/
  | unreadable (source : String)
  /-- A document is broken. -/
  | broken (fault : Rdf.Fault) (source : String)
  /-- There is no entry of that name. -/
  | absent (key : String)
  /-- A package is to be fixed, but nothing is given for it. -/
  | packageNotGiven
  /-- An endpoint cannot be reached. -/
  | unreachable (endpoint : String)
  deriving DecidableEq, Repr

/-- The text of a failure. -/
def Failure.message : Failure → String
  | .emission error => error.message
  | .package error => "No package for namespace " ++ error.ns
  | .file error path => path ++ ": " ++ error.message
  | .ontology error => error.message
  | .unreadable source => "Could not read " ++ source
  | .broken fault source => "Could not read " ++ source ++ ": " ++ fault.message
  | .absent key => "No entry for " ++ key
  | .packageNotGiven => "No package is given"
  | .unreachable endpoint => "Could not reach " ++ endpoint

end Ontogen
