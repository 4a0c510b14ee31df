import TaskTree.Location
import TaskTree.Text.Quoted

/-!
# Disks

A disk has a clock and entries: files, folders, links to other locations, and
databases, which are files that only their engine can read.  Each entry has the
time of its last change.  A folder changes when an entry is put into it or
taken out of it, and not when an entry that is there gets another content.

Entries stand at places, which are locations without `..`.  Which place a
location means depends on the links and folders on the way.
-/

namespace TaskTree

/-- What a disk holds at a place. -/
inductive Entry where
  | file (bytes : List UInt8)
  | folder
  /-- A link; its target is seen from the folder that holds the link. -/
  | link (target : Location)
  | database
  /-- A database that these bytes were written over. -/
  | spoiled (bytes : List UInt8)
  deriving DecidableEq, Repr

/-- Why the system refuses an operation. -/
inductive Disk.Code where
  | notFound
  | exists
  | notFolder
  | isFolder
  | nameTooLong
  | tooManyLinks
  deriving DecidableEq, Repr

/-- A refused operation, with the location that it was about. -/
structure Disk.Refusal where
  code : Disk.Code
  location : Location
  deriving DecidableEq, Repr

/-- The entries of a file system by their places, each with the time of its last change in
seconds. -/
structure Disk where
  now : Int
  entries : List (Location × Entry × Int)
  deriving Repr

namespace Disk

/-- The number and the words of a code. -/
def Code.message : Code → String
  | .notFound => "[Errno 2] No such file or directory"
  | .exists => "[Errno 17] File exists"
  | .notFolder => "[Errno 20] Not a directory"
  | .isFolder => "[Errno 21] Is a directory"
  | .nameTooLong => "[Errno 36] File name too long"
  | .tooManyLinks => "[Errno 40] Too many levels of symbolic links"

/-- The message of a refusal. -/
def Refusal.message (r : Refusal) : String :=
  s!"{r.code.message}: {Text.quoted r.location.text}"

/-- A disk without entries. -/
def empty : Disk := ⟨0, []⟩

/-- What is at a place, with its time.  An anchor is always a folder. -/
def stamped? (disk : Disk) (place : Location) : Option (Entry × Int) :=
  if place.names = [] then some (.folder, disk.now)
  else disk.entries.lookup place

/-- What is at a place. -/
def entry? (disk : Disk) (place : Location) : Option Entry :=
  (disk.stamped? place).map Prod.fst

/-- The disk with an entry at a place changed at a time. -/
def stamp (disk : Disk) (place : Location) (time : Int) : Disk :=
  { disk with entries := disk.entries.map fun (p, e, t) =>
      if p = place then (p, e, time) else (p, e, t) }

/-- Put an entry at a place where none is. -/
def add (disk : Disk) (place : Location) (e : Entry) : Disk :=
  let disk := disk.stamp place.parent disk.now
  { disk with entries := disk.entries ++ [(place, e, disk.now)] }

/-- Put an entry in the place of the one that is there. -/
def replace (disk : Disk) (place : Location) (e : Entry) : Disk :=
  { disk with entries := disk.entries.map fun (p, old, t) =>
      if p = place then (p, e, disk.now) else (p, old, t) }

/-- Take away the entry at a place with all that is below it. -/
def drop (disk : Disk) (place : Location) : Disk :=
  let disk := disk.stamp place.parent disk.now
  { disk with entries := disk.entries.filter fun (p, _) => !place.covers p }

/-- Let time pass. -/
def wait (disk : Disk) (seconds : Int) : Disk :=
  { disk with now := disk.now + seconds }

/-- What lies below a place, told from there on, in the order of the texts. -/
def listing (disk : Disk) (place : Location) : List String :=
  let below := disk.entries.filter fun (p, _) =>
    place.covers p && p.names.length > place.names.length
  let texts := below.map fun (p, _) =>
    ({ anchor := .here, names := p.names.drop place.names.length } : Location).text
  texts.mergeSort fun a b => decide (a ≤ b)

end Disk

end TaskTree
