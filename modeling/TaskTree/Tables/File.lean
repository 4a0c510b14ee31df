import TaskTree.Tables.Basic
import TaskTree.Tables.Beside

/-!
# Tables in a file

Tables that outlive a run are kept in a file by their engine.  While they are
in use, a log and an index of the log stand beside it.  Closing brings the log
into the file and takes both away.  When the file itself has been taken away
meanwhile, there is nothing to bring the log into, and it stays.

A log that stays belongs to whatever file is put in that place.  To an empty
one it adds nothing.  Of any other it has the newer content, which makes up for
what is in the file if it is all of the tables: the log of tables that were new
when they were opened.
-/

namespace TaskTree.Tables

/-- The place of tables that are in use. -/
structure Home where
  place : Location
  /-- The tables that are in the file itself. -/
  kept : Tables
  /-- All of the tables is in the log, as none were in the file. -/
  isNew : Bool
  /-- The tables can only be read. -/
  isReadOnly : Bool := false
  deriving DecidableEq, Repr

/-- Let the engine have the file at a place. -/
def claimFile (disk : Disk) (place : Location) : Disk :=
  match disk.entry? place with
  | none => disk.add place .database
  | some (.file _) | some (.spoiled _) => disk.replace place .database
  | some _ => disk

/-- Let the engine have the files of tables. -/
def claim (disk : Disk) (place : Location) : Disk :=
  [place, logFile place, indexFile place].foldl claimFile disk

/-- Open tables where none are yet. -/
def openNew (disk : Disk) (place : Location) : Disk × Except Mishap Home :=
  match sweep disk place with
  | (disk, .error mishap) => (disk, .error mishap)
  | (disk, .ok ()) =>
    match openLog disk place with
    | (disk, .error mishap) => (disk, .error mishap)
    | (disk, .ok true) => (disk, .error .tablesReadOnly)
    | (disk, .ok false) => (claim disk place, .ok { place, kept := .empty, isNew := true })

/-- Open the tables that a file holds. -/
def openKept (disk : Disk) (place : Location) (kept : Tables) : Disk × Except Mishap Home :=
  match undo disk place with
  | (disk, .error mishap) => (disk, .error mishap)
  | (disk, .ok ()) =>
    match openLog disk place with
    | (disk, .error mishap) => (disk, .error mishap)
    | (disk, .ok isReadOnly) =>
      (claim disk place, .ok { place, kept, isNew := false, isReadOnly })

/-- Open a file that holds something else.  The tables can still be in its log. -/
def openOther (disk : Disk) (place : Location) (kept : Tables) : Disk × Except Mishap Home :=
  match undo disk place with
  | (disk, .error mishap) => (disk, .error mishap)
  | (disk, .ok ()) =>
    if !disk.isSeen (logFile place) then (disk, .error .notTables)
    else
      let isLog := disk.entry? (logFile place) = some .database
      match openLog disk place with
      | (disk, .error mishap) => (disk, .error mishap)
      | (disk, .ok isReadOnly) =>
        if isLog then (claim disk place, .ok { place, kept, isNew := true, isReadOnly })
        else (disk, .error .notTables)

/-- The engine takes a single byte for nothing. -/
def isBlank (bytes : List UInt8) : Bool :=
  bytes.length ≤ 1

/-- Open the tables in the file at a place, where `kept` are the ones that it holds if it holds
any. -/
def openAt (disk : Disk) (place : Location) (kept : Tables) : Disk × Except Mishap Home :=
  match disk.entry? place with
  | none => openNew disk place
  | some .database => openKept disk place kept
  | some (.file bytes) | some (.spoiled bytes) =>
    if isBlank bytes then openNew disk place else openOther disk place kept
  | some _ => (disk, .error .tablesUnreachable)

/-- Open the tables in a file, which is made if it is not there; `kept` are the ones that it
holds if it holds any. -/
def openFile (disk : Disk) (file : Location) (kept : Tables) : Disk × Except Mishap Home :=
  match disk.ensureFolder file.parent with
  | (disk, .error r) => (disk, .error (.refused r))
  | (disk, .ok ()) =>
    match disk.find true file with
    | .error _ => (disk, .error .tablesUnreachable)
    | .ok place => openAt disk place kept

/-- Take away the log and the index. -/
def clearLog (disk : Disk) (place : Location) : Disk :=
  clear (clear disk (logFile place)) (indexFile place)

/-- What is left in a file that was written over while it was in use, once its log is brought
into it.  A log of all of the tables makes up for everything, and a log of some rows makes the
rest no better. -/
def mended (disk : Disk) (home : Home) (tables : Tables) (bytes : List UInt8) : Entry :=
  match disk.entry? (logFile home.place) with
  | some (.spoiled _) => .file bytes
  | _ =>
    if home.isNew then .database
    else if tables = home.kept then .file bytes
    else .file (bytes ++ [0, 0])

/-- Close a file of tables, which holds `tables` by now if its log does.  With the disk come
the tables that are kept. -/
def closeFile (disk : Disk) (home : Home) (tables : Tables) : Disk × Tables :=
  match disk.entry? home.place, disk.entry? (logFile home.place) with
  | some .database, some (.spoiled _) => (clearLog disk home.place, home.kept)
  | some .database, _ =>
    if home.isReadOnly then (disk, home.kept) else (clearLog disk home.place, tables)
  | some (.spoiled bytes), _ =>
    let disk := disk.replace home.place (mended disk home tables bytes)
    (clearLog disk home.place, tables)
  | _, some .database =>
    (if home.isNew then disk else disk.replace (logFile home.place) (.file [0]), tables)
  | _, _ => (disk, tables)

end TaskTree.Tables
