import TaskTree.Disk.Change
import TaskTree.Fault

/-!
# Files beside tables

Three files can stand beside a file of tables.  The log has what was written
since the file was opened, and the index tells where in the log it is.  The
journal is older: it has what a change that was broken off would have to be
undone with.  The engine makes the log and the index when it opens the file,
and looks for a journal before.

Files that somebody else has put there are taken away or written over.  Links
are not followed, and a folder that is in the way stays.
-/

namespace TaskTree.Tables

/-- The log beside a file of tables. -/
def logFile (place : Location) : Location := place.withSuffix "-wal"

/-- The index of the log beside a file of tables. -/
def indexFile (place : Location) : Location := place.withSuffix "-shm"

/-- The journal beside a file of tables. -/
def journalFile (place : Location) : Location := place.withSuffix "-journal"

/-- Take away a file or a link; a folder stays. -/
def clear (disk : Disk) (place : Location) : Disk :=
  match disk.entry? place with
  | none | some .folder => disk
  | some _ => disk.drop place

/-- An empty file where nothing is yet. -/
def settle (disk : Disk) (place : Location) : Disk :=
  match disk.entry? place with
  | none => disk.add place (.file [])
  | some _ => disk

/-- No file can be made at a place. -/
def isBarred (disk : Disk) (place : Location) : Bool :=
  match disk.entry? place with
  | some .folder | some (.link _) => true
  | _ => false

/-- Make room beside a file of tables that is empty, and write its beginning, for which a
journal is kept.  What is there was left by tables that are gone. -/
def sweep (disk : Disk) (place : Location) : Disk × Except Mishap Unit :=
  let disk := settle disk place
  let disk := if disk.isSeen (journalFile place) then clear disk (journalFile place) else disk
  if !disk.isSeen (logFile place) then
    if isBarred disk (journalFile place) then (disk, .error .tablesUnreachable)
    else (clear disk (journalFile place), .ok ())
  else if disk.entry? (logFile place) = some .folder then (disk, .error .tablesBlocked)
  else
    let disk := clear disk (logFile place)
    if isBarred disk (journalFile place) then (disk, .error .tablesUnreachable)
    else (clear disk (journalFile place), .ok ())

/-- Go by the journal beside a file of tables, if there is one.  A journal that starts with a
null byte is over. -/
def undo (disk : Disk) (place : Location) : Disk × Except Mishap Unit :=
  if !disk.isSeen (journalFile place) then (disk, .ok ())
  else
    match disk.entry? (journalFile place) with
    | some .folder => (disk, .error .tablesBlocked)
    | some (.link _) => (disk, .error .tablesUnreachable)
    | some (.file (0 :: _)) => (disk, .ok ())
    | _ => (clear disk (journalFile place), .ok ())

/-- Open the log and its index.  With a folder in the place of the index, the tables can only be
read. -/
def openLog (disk : Disk) (place : Location) : Disk × Except Mishap Bool :=
  if isBarred disk (logFile place) then (disk, .error .tablesUnreachable)
  else
    let disk := settle disk (logFile place)
    match disk.entry? (indexFile place) with
    | some (.link _) => (disk, .error .tablesUnreachable)
    | some .folder => (disk, .ok true)
    | _ => (settle disk (indexFile place), .ok false)

end TaskTree.Tables
