import TaskTree.Disk.Change
import TaskTree.Graph.Snapshot
import TaskTree.Text.Utf8

/-!
# Snapshots on disk, and their lock

A vault is a handle on the snapshot below a base folder.  The first load takes
the lock, which is a file beside the snapshot, and the handle keeps it until it
is released.  A lock file that has not been touched for longer than the handle
allows is taken for one that a crashed program left, and is taken over.  The
lock excludes other handles only; it does not guard the snapshot itself.

A guard remembers the lock file that it was created for, wherever the handle
looks later.
-/

namespace TaskTree

/-- A handle on the snapshot below a base folder. -/
structure Vault where
  base : Location
  /-- The least age of a lock file, in whole seconds, at which it no longer counts.  It is
    always a little older than that, as some time has gone by since it was changed. -/
  staleAfter : Int
  /-- The lock file that this handle has created and has to remove. -/
  guard? : Option Location := none
  deriving DecidableEq, Repr

namespace Vault

/-- The age unless another is asked for: one day. -/
def defaultStaleAfter : Int := 86400

/-- The folder of the snapshot. -/
def folder (vault : Vault) : Location := vault.base.child "hyperlog"

/-- The file of the snapshot. -/
def stateFile (vault : Vault) : Location := vault.folder.child "graph.json"

/-- The lock file. -/
def lockFile (vault : Vault) : Location := vault.folder.child "graph.lock"

/-- What a lock file holds. -/
def lockPayload : List UInt8 := Utf8.encode "hyperlog-lock"

/-- The handle holds a lock. -/
def isLocked (vault : Vault) : Bool := vault.guard?.isSome

/-- Where the snapshot is, for people. -/
def info (vault : Vault) : String :=
  s!"storage:\n\tgraph: {vault.stateFile.text}"

/-- A disk and a handle after an operation, with the result of the operation. -/
structure After (α : Type) where
  disk : Disk
  vault : Vault
  result : Except Failure α

/-- Create the lock file over a stale one. -/
def takeOver (disk : Disk) (lock : Location) : Except Disk.Refusal Disk :=
  match disk.removeFileIfPresent lock with
  | .error r => .error r
  | .ok disk => disk.createFile lock lockPayload

/-- Create the lock file, or find out how old the one is that is there. -/
def createLock (disk : Disk) (lock : Location) (staleAfter : Int) :
    Except Fault Disk :=
  let refuse (r : Disk.Refusal) : Except Fault Disk :=
    if r.code = .exists then .error .snapshotLocked else .error (.cannotLock lock r)
  match disk.createFile lock lockPayload with
  | .ok disk => .ok disk
  | .error r =>
    if r.code ≠ .exists then refuse r
    else
      match disk.age lock with
      | .error r =>
        if r.code ≠ .notFound then refuse r
        else
          match disk.createFile lock lockPayload with
          | .ok disk => .ok disk
          | .error r => refuse r
      | .ok age =>
        if age < staleAfter then .error .snapshotLocked
        else
          match takeOver disk lock with
          | .ok disk => .ok disk
          | .error r => refuse r

/-- Take the lock.  An obstacle that is an entry in the way counts as a lock. -/
def acquire (disk : Disk) (vault : Vault) : Disk × Except Fault Vault :=
  match disk.ensureFolder vault.folder with
  | (disk, .error r) =>
    let fault :=
      if r.code = .exists then Fault.snapshotLocked else .cannotLock vault.lockFile r
    (disk, .error fault)
  | (disk, .ok ()) =>
    match createLock disk vault.lockFile vault.staleAfter with
    | .error fault => (disk, .error fault)
    | .ok disk => (disk, .ok { vault with guard? := some vault.lockFile })

/-- The text of the snapshot with its line ends folded; nothing if there is no snapshot. -/
def readState (disk : Disk) (vault : Vault) : Except Failure (Option (List Char)) :=
  match disk.readFile vault.stateFile with
  | .error r =>
    if r.code = .notFound then .ok none
    else .error (.fault (.cannotRead vault.stateFile r))
  | .ok bytes =>
    match Utf8.decode bytes with
    | .error fault => .error (.mishap (.undecodable (.ofUtf8 fault)))
    | .ok cs => .ok (some (Text.foldLineEnds cs))

/-- The graph of the snapshot; the empty one if there is no snapshot. -/
def readGraph (disk : Disk) (vault : Vault) : Except Failure Graph :=
  match vault.readState disk with
  | .error failure => .error failure
  | .ok none => .ok .empty
  | .ok (some text) => Graph.ofChars text

/-- What keeps the folder of a vault from being made, before the system is asked to. -/
def obstacle? (disk : Disk) (vault : Vault) : Option Mishap :=
  if vault.base.hasNull then some .nullInName
  else if disk.isTooFar vault.folder then some .tooManyFolders
  else none

/-- Take the lock, unless the handle has it, and read the snapshot.  A snapshot that
cannot be read leaves the lock with the handle. -/
def load (disk : Disk) (vault : Vault) : After Graph :=
  match vault.guard? with
  | some _ =>
    if vault.base.hasNull then ⟨disk, vault, .error (.mishap .nullInName)⟩
    else ⟨disk, vault, vault.readGraph disk⟩
  | none =>
    match vault.obstacle? disk with
    | some mishap => ⟨disk, vault, .error (.mishap mishap)⟩
    | none =>
      match vault.acquire disk with
      | (disk, .error fault) => ⟨disk, vault, .error (.fault fault)⟩
      | (disk, .ok vault) => ⟨disk, vault, vault.readGraph disk⟩

/-- Write the snapshot of a graph.  Folders that were made on the way stay.  `refused?` is a
refusal of the system to open the file, for a reason that does not lie in the entries of the
disk.  The text of the graph can be made however deep it is nested: that whoever makes it by calls,
one in the other, gives up at about 980 levels is left out. -/
def store (disk : Disk) (vault : Vault) (graph : Graph)
    (refused? : Option Disk.Refusal := none) : Disk × Except Failure Unit :=
  match vault.obstacle? disk with
  | some mishap => (disk, .error (.mishap mishap))
  | none =>
    match disk.ensureFolder vault.folder with
    | (disk, .error r) => (disk, .error (.fault (.cannotWrite vault.stateFile r)))
    | (disk, .ok ()) =>
      let written : Except Disk.Refusal Disk :=
        match refused? with
        | some r => .error r
        | none => disk.writeFile vault.stateFile (Utf8.encode graph.snapshot)
      match written with
      | .error r => (disk, .error (.fault (.cannotWrite vault.stateFile r)))
      | .ok disk => (disk, .ok ())

/-- Release the lock, if the handle has one.  A lock file that cannot be removed stays. -/
def unlock (disk : Disk) (vault : Vault) : Disk × Vault :=
  match vault.guard? with
  | none => (disk, vault)
  | some lock =>
    let after :=
      match disk.removeFileIfPresent lock with
      | .ok disk => disk
      | .error _ => disk
    (after, { vault with guard? := none })

/-- Remove the lock file, whoever has it. -/
def clearLock (disk : Disk) (vault : Vault) : After Unit :=
  let (disk, vault) := vault.unlock disk
  if vault.base.hasNull then ⟨disk, vault, .error (.mishap .nullInName)⟩
  else
    match disk.removeFileIfPresent vault.lockFile with
    | .ok disk => ⟨disk, vault, .ok ()⟩
    | .error r => ⟨disk, vault, .error (.fault (.cannotRemove vault.lockFile r))⟩

/-- Look below another base from now on. -/
def withBase (vault : Vault) (base : Location) : Vault :=
  { vault with base }

/-- Load, and release the lock whatever came of it. -/
def loadAndClose (disk : Disk) (vault : Vault) : After Graph :=
  let loaded := vault.load disk
  let (disk, vault) := loaded.vault.unlock loaded.disk
  ⟨disk, vault, loaded.result⟩

end Vault

end TaskTree
