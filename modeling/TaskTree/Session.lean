import TaskTree.Command.Basic
import TaskTree.Events
import TaskTree.Vault

/-!
# Sessions on a snapshot

A session holds the lock of a vault, the graph in memory, and a hub for those
who want to hear about commands.  A command changes the graph, then the
snapshot, and then it is announced; each part is done only if the one before
it succeeded.  A snapshot that cannot be written leaves the changed graph in
memory, and the next command that succeeds writes it too.
-/

namespace TaskTree

/-- A graph in memory with its place on disk and its listeners. -/
structure Session where
  vault : Vault
  graph : Graph
  hub : Events Command
  deriving Repr

namespace Session

/-- Load the snapshot.  Without a graph no lock is kept. -/
def start (disk : Disk) (vault : Vault) (capacity : Int) : Disk × Except Failure Session :=
  let loaded := vault.load disk
  match loaded.result with
  | .ok graph => (loaded.disk, .ok ⟨loaded.vault, graph, .withCapacity capacity⟩)
  | .error failure => ((loaded.vault.unlock loaded.disk).1, .error failure)

/-- A disk and a session after a command, with what came of it. -/
structure After where
  disk : Disk
  session : Session
  result : Except Failure Unit

/-- Do what a command says: in memory, on disk, and before the listeners.  `refused?` is a
refusal of the system to open the snapshot. -/
def execute (disk : Disk) (session : Session) (command : Command)
    (refused? : Option Disk.Refusal := none) : After :=
  let change := session.graph.execute command
  let changed := { session with graph := change.graph }
  match change.fault? with
  | some fault => ⟨disk, changed, .error (.fault fault)⟩
  | none =>
    match session.vault.store disk change.graph refused? with
    | (disk, .error failure) => ⟨disk, changed, .error failure⟩
    | (disk, .ok ()) => ⟨disk, { changed with hub := session.hub.announce command }, .ok ()⟩

/-- A copy of the node at a path below a root, if there is one; empty names in the path do not
matter. -/
def get (session : Session) (root : String) (path : Path) : Except Failure (Option Node) :=
  match session.graph.get? root (Path.clean path) with
  | none => .ok none
  | some node =>
    match node.copy with
    | .ok node => .ok (some node)
    | .error mishap => .error (.mishap mishap)

/-- The names of the roots in order; nothing if there is none. -/
def roots? (session : Session) : Option (List String) :=
  session.graph.roots?

/-- End the session and release its lock. -/
def finish (disk : Disk) (session : Session) : Disk × Session :=
  let (disk, vault) := session.vault.unlock disk
  (disk, { session with vault })

end Session

end TaskTree
