import Phrasebook.Catalog.Json
import Phrasebook.CommandLine.DotEnv
import Phrasebook.CommandLine.Options
import Phrasebook.CommandLine.Run
import Phrasebook.Description
import Phrasebook.Files
import Phrasebook.Inspection
import Phrasebook.Main
import Phrasebook.Proofs.Canonical
import Phrasebook.Proofs.Checking
import Phrasebook.Proofs.Dictionaries
import Phrasebook.Proofs.Evaluation
import Phrasebook.Proofs.Heads
import Phrasebook.Proofs.Locality
import Phrasebook.Proofs.Mildness
import Phrasebook.Proofs.Neutral
import Phrasebook.Proofs.Overlap
import Phrasebook.Proofs.Protection
import Phrasebook.Proofs.Provenance
import Phrasebook.Proofs.Quotation
import Phrasebook.Proofs.Separation
import Phrasebook.Proofs.Trees
import Phrasebook.Renderer
import Phrasebook.Report.Diagnostic
import Phrasebook.Report.Grid
import Phrasebook.Proofs.Levels
import Phrasebook.Proofs.RunningText
import Phrasebook.Proofs.Nesting
import Phrasebook.Proofs.Delimiters
import Phrasebook.Proofs.References
import Phrasebook.Proofs.Catalogs
import Phrasebook.Proofs.Environments
import Phrasebook.Proofs.Slices
import Phrasebook.Proofs.Stripping
import Phrasebook.Proofs.Boundaries
import Phrasebook.Proofs.WrittenForm
import Phrasebook.Proofs.Faults
import Phrasebook.Proofs.Recognition
import Phrasebook.Proofs.Suggestions
import Phrasebook.Proofs.Keys
import Phrasebook.Proofs.ByteOrder
import Phrasebook.Proofs.Edits
import Phrasebook.Proofs.Ranking
import Phrasebook.Proofs.Histories
import Phrasebook.Proofs.Documents
import Phrasebook.Proofs.Numerals
import Phrasebook.Proofs.LooseReading
import Phrasebook.Proofs.Listings
