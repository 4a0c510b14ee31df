import TaskTree.Main
import TaskTree.Proofs.Store.Reading
import TaskTree.Proofs.Disk.Sound
import TaskTree.Proofs.Vault.Lock
import TaskTree.Proofs.Vault.Exclusion
import TaskTree.Proofs.Client.Command
import TaskTree.Proofs.Graph.Refusal
import TaskTree.Proofs.Tables.Refusal
import TaskTree.Proofs.Store.Outcome
import TaskTree.Proofs.Graph.Shape
import TaskTree.Proofs.Client.Query
import TaskTree.Proofs.Tables.Dotted
import TaskTree.Proofs.Events.Interleaving
import TaskTree.Proofs.Gate
import TaskTree.Proofs.Graph.Likeness
import TaskTree.Proofs.Session.Reopening
import TaskTree.Proofs.Vault.Bases
import TaskTree.Proofs.Json.Nesting
import TaskTree.Proofs.Node.Depth
import TaskTree.Proofs.Graph.Depth
import TaskTree.Proofs.Graph.Size
import TaskTree.Proofs.Session.Depth
import TaskTree.Proofs.Graph.Places
import TaskTree.Proofs.Graph.Creation
import TaskTree.Proofs.Graph.Relocation
import TaskTree.Proofs.Graph.Renaming
import TaskTree.Proofs.Graph.Operation
import TaskTree.Proofs.Graph.Independence
import TaskTree.Tables.Transaction
import TaskTree.Proofs.Tables.Archive
import TaskTree.Proofs.Tables.Segments
import TaskTree.Proofs.Tables.Transaction
import TaskTree.Proofs.Store.Toggling
import TaskTree.Proofs.Node.Normal
import TaskTree.Proofs.Json.Digits
import TaskTree.Proofs.Vault.Content
import TaskTree.Proofs.Client.Answer
import TaskTree.Proofs.Disk.Folders
import TaskTree.Proofs.Vault.Obstacles
import TaskTree.Proofs.Node.Drawing
import TaskTree.Proofs.Command.Objects
import TaskTree.Proofs.Tables.Content
import TaskTree.Proofs.Path.Correspondence
