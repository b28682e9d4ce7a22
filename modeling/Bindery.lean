import Bindery.Generate.Describe
import Bindery.Generate.Workbench
import Bindery.Main
import Bindery.Proofs.Manifest.Consistency
import Bindery.Registry.Call
import Bindery.Registry.Installed
import Bindery.Proofs.Files.Writing
import Bindery.Proofs.Generate.Execute
import Bindery.Proofs.Modules
import Bindery.Proofs.Generate.Outputs
import Bindery.Proofs.Generate.Agreement
import Bindery.Proofs.Manifest.Occurrence
import Bindery.Proofs.Manifest.Account
import Bindery.Proofs.Generate.References
import Bindery.Proofs.Types
import Bindery.Proofs.Manifest.Reordering
import Bindery.Proofs.Generate.Reordering
import Bindery.Proofs.Registry.Action
import Bindery.Proofs.Registry.Commuting
import Bindery.Proofs.Registry.History
import Bindery.Proofs.Registry.Interleaving
import Bindery.Proofs.Files.Directories
import Bindery.Proofs.Generate.Rerun
import Bindery.Proofs.Manifest.RoundTrip
import Bindery.Proofs.Document.Registering
import Bindery.Proofs.Source.Scope
import Bindery.Proofs.Generate.Subset
import Bindery.Proofs.Registry.Invariant
import Bindery.Proofs.Generate.Unexported
import Bindery.Proofs.Manifest.Isolation
import Bindery.Proofs.Generate.Displacement
import Bindery.Proofs.Source.Dispatch
import Bindery.Proofs.Generate.Interruption
import Bindery.Proofs.Command.Agreement
import Bindery.Proofs.Header.Legacy
import Bindery.Proofs.Generate.Emitters
import Bindery.Proofs.Manifest.Signature
import Bindery.Proofs.Header.Guard
import Bindery.Proofs.Generate.Guards
import Bindery.Proofs.Generate.WholeRun
import Bindery.Proofs.Modules.Partition
import Bindery.Proofs.Generate.Includes
import Bindery.Proofs.Prototype.Slices
import Bindery.Proofs.Text.Cuts
import Bindery.Proofs.Prototype.Grammar
import Bindery.Proofs.Prototype.Unnamed
import Bindery.Proofs.Manifest.Retaining
import Bindery.Proofs.Header.Mirrors
import Bindery.Proofs.Generate.Mirrors
import Bindery.Proofs.Header.Complete
import Bindery.Proofs.Header.Symbols
import Bindery.Proofs.Registry.Bridge
import Bindery.Proofs.SemanticType.RoundTrip
import Bindery.Proofs.Entry.Absorbing
import Bindery.Proofs.Prototype.Normalizing
import Bindery.Proofs.Header.Semicolons
import Bindery.Proofs.Entry.Parameters
import Bindery.Proofs.Text.Comment
import Bindery.Proofs.Header.Comments
