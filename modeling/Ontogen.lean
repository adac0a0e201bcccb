import Ontogen.Main
import Ontogen.Session.Step
import Ontogen.Proofs.Emission.Clashes
import Ontogen.Proofs.Emission.References
import Ontogen.Proofs.Emission.Imports
import Ontogen.Proofs.Emission.FieldUse
import Ontogen.Proofs.Emission.Dependence
import Ontogen.Proofs.Emission.Flags
import Ontogen.Proofs.Emission.Holders
import Ontogen.Proofs.Emission.Tokens
import Ontogen.Proofs.Emission.Spacing
import Ontogen.Proofs.Schema.Loading
import Ontogen.Proofs.Rdf.Patterns
import Ontogen.Proofs.Schema.Properties
import Ontogen.Proofs.Schema.Classes
import Ontogen.Proofs.Schema.TripleOrder
import Ontogen.Proofs.Schema.Interleaving
import Ontogen.Proofs.Files.Path
import Ontogen.Proofs.Files.Tree
import Ontogen.Proofs.Generation.Writing
import Ontogen.Proofs.Generation.SharedFiles
import Ontogen.Proofs.Generation.Outcome
import Ontogen.Proofs.Session.FailedLoad
import Ontogen.Proofs.Session.FaultyDocument
import Ontogen.Proofs.Session.Coverage
import Ontogen.Proofs.Session.Containment
import Ontogen.Proofs.Session.PackageOptions
import Ontogen.Proofs.Session.Ranges
import Ontogen.Proofs.Text.Greedy
import Ontogen.Proofs.Package.Delimiters
import Ontogen.Proofs.Source.ReadBack
import Ontogen.Proofs.Source.Spacing
import Ontogen.Proofs.CommandLine.FixedPackages
