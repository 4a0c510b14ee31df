import TaskTree.Disk.Basic

/-!
# Finding places

The system walks to a location name by name.  Every name but the last must lead
to a folder, `..` leads to the folder that holds the present one, and a link
leads wherever its target does.  Whether a link at the very end is followed
depends on what the walk is for: looking at a file follows it, and making or
removing an entry does not.
-/

namespace TaskTree.Disk

/-- The number of links that one walk follows. -/
def maxLinks : Nat := 40

/-- The number of bytes that a name has at most. -/
def maxName : Nat := 255

/-- How far a walk comes without following a link. -/
inductive Leg where
  /-- To its end.  Nothing need be there. -/
  | done (place : Location)
  /-- To a link; the walk goes on from a folder over these names. -/
  | link (folder : Location) (names : List String)
  deriving DecidableEq, Repr

/-- The entries below a folder, with the names that lead to them from there. -/
abbrev Below := List (List String × Entry)

/-- The entries below a folder. -/
def below (disk : Disk) (folder : Location) : Below :=
  disk.entries.filterMap fun (place, e, _) =>
    if folder.covers place then some (place.names.drop folder.names.length, e) else none

/-- The entries at a name and below it. -/
def Below.under (entries : Below) (name : String) : Below :=
  entries.filterMap fun (names, e) =>
    match names with
    | first :: rest => if first = name then some (rest, e) else none
    | [] => none

/-- Walk from a folder on over these names, as far as the first link that is followed.
`entries` are those below the folder. -/
def leg (disk : Disk) (follow : Bool) (folder : Location) (entries : Below) :
    List String → Except Code Leg
  | [] => .ok (.done folder)
  | name :: rest =>
    if name = ".." then leg disk follow folder.parent (disk.below folder.parent) rest
    else if maxName < name.utf8ByteSize then .error .nameTooLong
    else
      let place := folder.child name
      let inside := entries.under name
      match inside.lookup [] with
      | some .folder => leg disk follow place inside rest
      | some (.link target) =>
        if rest = [] ∧ !follow then .ok (.done place)
        else
          let start := if target.anchor = .here then folder else ⟨target.anchor, []⟩
          .ok (.link start (target.names ++ rest))
      | some _ => if rest = [] then .ok (.done place) else .error .notFolder
      | none => if rest = [] then .ok (.done place) else .error .notFound

/-- The place that these names lead to from a folder on, with so many links followed at
most. -/
def walk (disk : Disk) (follow : Bool) : (links : Nat) → (folder : Location) →
    (names : List String) → Except Code Location
  | links, folder, names =>
    match disk.leg follow folder (disk.below folder) names with
    | .error code => .error code
    | .ok (.done place) => .ok place
    | .ok (.link folder names) =>
      match links with
      | 0 => .error .tooManyLinks
      | links + 1 => walk disk follow links folder names

/-- The number of bytes that the text of a location has at most. -/
def maxText : Nat := 4095

/-- The place that a location means.  The text of the location is looked at first. -/
def find (disk : Disk) (follow : Bool) (loc : Location) : Except Refusal Location :=
  if maxText < loc.text.utf8ByteSize then .error ⟨.nameTooLong, loc⟩
  else
    match disk.walk follow maxLinks ⟨loc.anchor, []⟩ loc.names with
    | .ok place => .ok place
    | .error code => .error ⟨code, loc⟩

/-- What is at a location, through links. -/
def look (disk : Disk) (loc : Location) : Except Refusal (Option Entry) :=
  (disk.find true loc).map disk.entry?

/-- A link is at a location, and it leads nowhere. -/
def isDangling (disk : Disk) (loc : Location) : Bool :=
  match (disk.find false loc).map disk.entry? with
  | .ok (some (.link _)) =>
    match disk.look loc with
    | .ok (some _) => false
    | _ => true
  | _ => false

/-- A folder is there. -/
def isFolder (disk : Disk) (loc : Location) : Bool :=
  match disk.look loc with
  | .ok (some .folder) => true
  | _ => false

/-- Something is at a location, and not only an empty file. -/
def isSeen (disk : Disk) (loc : Location) : Bool :=
  match disk.look loc with
  | .ok (some (.file bytes)) | .ok (some (.spoiled bytes)) => bytes ≠ []
  | .ok (some _) => true
  | _ => false

/-- The bytes of a file.  Those of a database are not known. -/
def readFile (disk : Disk) (loc : Location) : Except Refusal (List UInt8) :=
  match disk.look loc with
  | .error r => .error r
  | .ok (some (.file bytes)) => .ok bytes
  | .ok (some .folder) => .error ⟨.isFolder, loc⟩
  | .ok (some .database) => .ok []
  | .ok (some (.spoiled bytes)) => .ok bytes
  | .ok (some (.link _)) => .error ⟨.tooManyLinks, loc⟩
  | .ok none => .error ⟨.notFound, loc⟩

/-- The seconds since the last change. -/
def age (disk : Disk) (loc : Location) : Except Refusal Int :=
  match (disk.find true loc).map disk.stamped? with
  | .error r => .error r
  | .ok none => .error ⟨.notFound, loc⟩
  | .ok (some (_, time)) => .ok (disk.now - time)

end TaskTree.Disk
