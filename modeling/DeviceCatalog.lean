import DeviceCatalog.Deployment
import DeviceCatalog.Settings
import DeviceCatalog.Proofs.Substrate.Collection
import DeviceCatalog.Proofs.Substrate.Projection
import DeviceCatalog.Proofs.Substrate.Sequential
import DeviceCatalog.Proofs.Json.Lexeme
import DeviceCatalog.Proofs.Json.Number
import DeviceCatalog.Proofs.Json.Spelling
import DeviceCatalog.Proofs.Json.Token
import DeviceCatalog.Proofs.Json.Assembly
import DeviceCatalog.Proofs.Json.Exactness
import DeviceCatalog.Proofs.Json.Field
import DeviceCatalog.Proofs.Device.Record
import DeviceCatalog.Proofs.Device.Acceptance
import DeviceCatalog.Proofs.Layout.Families
import DeviceCatalog.Proofs.Substrate.Locality
import DeviceCatalog.Proofs.Substrate.Contents
import DeviceCatalog.Proofs.Directory.Catalog
import DeviceCatalog.Proofs.Directory.Mirror
import DeviceCatalog.Proofs.Directory.Upkeep
import DeviceCatalog.Proofs.Directory.Preservation
import DeviceCatalog.Proofs.Directory.Typing
import DeviceCatalog.Proofs.Substrate.Evaluation
import DeviceCatalog.Proofs.Directory.Discipline
import DeviceCatalog.Proofs.Rank
import DeviceCatalog.Proofs.SortedSet
import DeviceCatalog.Proofs.Directory.Window
import DeviceCatalog.Proofs.Directory.Meaning
import DeviceCatalog.Proofs.Directory.Simulation
import DeviceCatalog.Proofs.Directory.Listing
import DeviceCatalog.Proofs.Directory.Refinement
import DeviceCatalog.Proofs.Deployment
import DeviceCatalog.Proofs.Score
import DeviceCatalog.Proofs.Score.Nearest
import DeviceCatalog.Proofs.Score.TotalOrder
import DeviceCatalog.Proofs.Text
import DeviceCatalog.Proofs.Directory.Chronicle
import DeviceCatalog.Proofs.Substrate.Conformance
import DeviceCatalog.Proofs.Directory.Staleness
import DeviceCatalog.Proofs.Substrate.Transcript
import DeviceCatalog.Proofs.Directory.Faults
import DeviceCatalog.Proofs.Layout.Territory
import DeviceCatalog.Proofs.Substrate.Confinement
import DeviceCatalog.Proofs.Directory.Confinement
import DeviceCatalog.Proofs.Deployment.Absence
import DeviceCatalog.Proofs.Deployment.Isolation
import DeviceCatalog.Proofs.Directory.Coherence
import DeviceCatalog.Proofs.Directory.Rebuild
import DeviceCatalog.Proofs.Layout.Reserved
import DeviceCatalog.Proofs.Deployment.Overlap
import DeviceCatalog.Proofs.Settings
import DeviceCatalog.Proofs.SortedSet.Replay
import DeviceCatalog.Proofs.SortedSet.Range
import DeviceCatalog.Proofs.Directory.Paging
import DeviceCatalog.Proofs.Directory.Selection
import DeviceCatalog.Proofs.Substrate.Bystanders
import DeviceCatalog.Proofs.Directory.Frame
import DeviceCatalog.Proofs.Directory.Deletion
import DeviceCatalog.Proofs.Substrate.Foresight
import DeviceCatalog.Proofs.Substrate.Interleaving
