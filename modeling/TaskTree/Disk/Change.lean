import TaskTree.Disk.Walk

/-!
# Changing disks

The operations of a system that change what a disk holds.  Each looks for the
place first and refuses with the code and the location that the system reports.
-/

namespace TaskTree.Disk

/-- Write a file, over the file that is there.  The engine of a database does not notice when
it is written over. -/
def writeFile (disk : Disk) (loc : Location) (bytes : List UInt8) : Except Refusal Disk :=
  match disk.find true loc with
  | .error r => .error r
  | .ok place =>
    match disk.entry? place with
    | some .folder => .error ⟨.isFolder, loc⟩
    | some .database | some (.spoiled _) => .ok (disk.replace place (.spoiled bytes))
    | some _ => .ok (disk.replace place (.file bytes))
    | none => .ok (disk.add place (.file bytes))

/-- Make an entry where nothing is yet, not even a link. -/
def create (disk : Disk) (loc : Location) (e : Entry) : Except Refusal Disk :=
  match disk.find false loc with
  | .error r => .error r
  | .ok place =>
    match disk.entry? place with
    | some _ => .error ⟨.exists, loc⟩
    | none => .ok (disk.add place e)

/-- Write a file where nothing is yet. -/
def createFile (disk : Disk) (loc : Location) (bytes : List UInt8) : Except Refusal Disk :=
  disk.create loc (.file bytes)

/-- Make a folder where nothing is yet. -/
def createFolder (disk : Disk) (loc : Location) : Except Refusal Disk :=
  disk.create loc .folder

/-- Make a folder, unless it is there already. -/
def settleFolder (disk : Disk) (loc : Location) : Disk × Except Refusal Unit :=
  match disk.createFolder loc with
  | .ok disk => (disk, .ok ())
  | .error r => (disk, if disk.isFolder loc then .ok () else .error r)

/-- Make a folder with the folders on the way to it, those that are not there already.
`missing` bounds the number of folders to make.  What was made before a refusal stays. -/
def ensureFolders : (missing : Nat) → Disk → Location → Disk × Except Refusal Unit
  | 0, disk, loc => disk.settleFolder loc
  | missing + 1, disk, loc =>
    match disk.createFolder loc with
    | .ok disk => (disk, .ok ())
    | .error r =>
      if r.code = .notFound then
        match ensureFolders missing disk loc.parent with
        | (disk, .error r) => (disk, .error r)
        | (disk, .ok ()) => disk.settleFolder loc
      else (disk, if disk.isFolder loc then .ok () else .error r)

/-- The most folders that can be missing on the way to a folder that is made. -/
def maxWay : Nat := 985

/-- The number of folders that are missing on the way to a folder, `bound` at most. -/
def missingOnWay (disk : Disk) : (bound : Nat) → Location → Nat
  | 0, _ => 0
  | bound + 1, loc =>
    match disk.createFolder loc with
    | .ok _ => 0
    | .error r => if r.code = .notFound then missingOnWay disk bound loc.parent + 1 else 0

/-- The way to a folder is too long for it to be made. -/
def isTooFar (disk : Disk) (loc : Location) : Bool :=
  maxWay < loc.names.length && maxWay < disk.missingOnWay loc.names.length loc

/-- Make a folder with the folders on the way to it. -/
def ensureFolder (disk : Disk) (loc : Location) : Disk × Except Refusal Unit :=
  ensureFolders loc.names.length disk loc

/-- Remove a file or a link. -/
def removeFile (disk : Disk) (loc : Location) : Except Refusal Disk :=
  match disk.find false loc with
  | .error r => .error r
  | .ok place =>
    match disk.entry? place with
    | none => .error ⟨.notFound, loc⟩
    | some .folder => .error ⟨.isFolder, loc⟩
    | some _ => .ok (disk.drop place)

/-- Remove a file or a link, if one is there. -/
def removeFileIfPresent (disk : Disk) (loc : Location) : Except Refusal Disk :=
  match disk.removeFile loc with
  | .ok disk => .ok disk
  | .error r => if r.code = .notFound then .ok disk else .error r

/-- Remove whatever is at a location with all that is below it. -/
def removeTree (disk : Disk) (loc : Location) : Disk :=
  match disk.find false loc with
  | .ok place => if (disk.entry? place).isSome then disk.drop place else disk
  | .error _ => disk

/-- Set the last change of an entry to so many seconds ago. -/
def setAge (disk : Disk) (loc : Location) (seconds : Int) : Except Refusal Disk :=
  match disk.find true loc with
  | .error r => .error r
  | .ok place =>
    if (disk.entry? place).isSome then .ok (disk.stamp place (disk.now - seconds))
    else .error ⟨.notFound, loc⟩

end TaskTree.Disk
