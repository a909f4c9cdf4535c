import Rulebook.Files.Tree
import Rulebook.Main
import Rulebook.Proofs.Audit.Entry
import Rulebook.Proofs.Audit.Log
import Rulebook.Proofs.Audit.TornWrite
import Rulebook.Proofs.Canonical
import Rulebook.Proofs.Catalog.ConflictGraph
import Rulebook.Proofs.Catalog.NormalForm
import Rulebook.Proofs.Catalog.Violations
import Rulebook.Proofs.Catalog.Written
import Rulebook.Proofs.Check
import Rulebook.Proofs.Configuration
import Rulebook.Proofs.Contract
import Rulebook.Proofs.Document.Given
import Rulebook.Proofs.Document.Nesting
import Rulebook.Proofs.Document.Provenance
import Rulebook.Proofs.Document.Tagged
import Rulebook.Proofs.Files.Append
import Rulebook.Proofs.Files.Directories
import Rulebook.Proofs.Files.Reading
import Rulebook.Proofs.Fingerprint
import Rulebook.Proofs.Instant.Calendar
import Rulebook.Proofs.Instant.Reading
import Rulebook.Proofs.Json.Cut
import Rulebook.Proofs.Json.Depth
import Rulebook.Proofs.Json.Front
import Rulebook.Proofs.Json.Numeral
import Rulebook.Proofs.Nesting
import Rulebook.Proofs.OrderedMap
import Rulebook.Proofs.Outcome
import Rulebook.Proofs.Program.Check
import Rulebook.Proofs.Program.Exit
import Rulebook.Proofs.Program.Layers
import Rulebook.Proofs.Program.Opening
import Rulebook.Proofs.Program.Resolve
import Rulebook.Proofs.Project
import Rulebook.Proofs.Registry
import Rulebook.Proofs.Reread
import Rulebook.Proofs.Resolution.Blocking
import Rulebook.Proofs.Resolution.Constraints
import Rulebook.Proofs.Resolution.Inactive
import Rulebook.Proofs.Resolution.Locality
import Rulebook.Proofs.Resolution.Overruling
import Rulebook.Proofs.Resolution.Reduction
import Rulebook.Proofs.Resolution.Restatement
import Rulebook.Proofs.Resolution.Selection
import Rulebook.Proofs.Service.Classification
import Rulebook.Proofs.Service.Stamp
import Rulebook.Proofs.Service.Trail
import Rulebook.Proofs.Template
import Rulebook.Proofs.Text.Bytes
