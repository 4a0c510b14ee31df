import TaskTree.Console.Run

/-!
# The program

A run of the program is one step: what it can see of the file system is looked
at, the command line is run, and what the run has changed is written back.
There is no network here, so no server can be reached.
-/

namespace TaskTree.Program

/-- The variables of the environment that settings depend on. -/
def environment : IO Settings.Environment := do
  let mut found : Settings.Environment := []
  for name in Settings.variableNames do
    if let some value ← IO.getEnv name then
      found := Named.insert name value found
  return found

/-- The time now, as the file system tells it. -/
def clock : IO Int := do
  let (_, file) ← IO.FS.createTempFile
  let seen ← file.metadata
  IO.FS.removeFile file
  return seen.modified.sec

/-- What the system has at a location, through links, with the time of its last change. -/
def look (loc : Location) : IO (Option (Entry × Int)) := do
  let file := (← IO.currentDir) / loc.text
  match ← file.metadata.toBaseIO with
  | .error _ => return none
  | .ok seen =>
    let time := seen.modified.sec
    if seen.type == .dir then return some (.folder, time)
    else return some (.file (← IO.FS.readBinFile file).toList, time)

/-- There is a link at a location. -/
def isLink (loc : Location) : IO Bool := do
  let file := (← IO.currentDir) / loc.text
  match ← file.symlinkMetadata.toBaseIO with
  | .error _ => return false
  | .ok seen => return seen.type == .symlink

/-- Where a link at a place is taken to lead.  No file of the system has such a name. -/
def targetOf (place : Location) : Location where
  anchor := .here
  names := [(place.names.getLast?.getD "") ++ "/"]

/-- Names without those that `..` takes back. -/
def straight (names : List String) : List String :=
  names.foldl (fun names name =>
    if name = ".." ∧ names ≠ [] ∧ names.getLast? ≠ some ".." then names.dropLast
    else names ++ [name]) []

/-- The locations that a run can see, each after the folders on the way to it.  A folder
that the run makes can be the way to what stands elsewhere already. -/
def visible (vault : Vault) : List Location :=
  let all := vault.lockFile.folders ++ [vault.stateFile, vault.lockFile]
  all ++ all.map fun loc => { loc with names := straight loc.names }

/-- The part of the file system that a run can see. -/
def survey (vault : Vault) : IO Disk := do
  let mut disk : Disk := ⟨← clock, []⟩
  for loc in visible vault do
    if let .ok place := disk.find false loc then
      if (disk.entry? place).isNone then
        if ← isLink loc then
          disk := { disk with entries := disk.entries ++ [(place, .link (targetOf place), 0)] }
        if let .ok place := disk.find true loc then
          if let some (entry, time) ← look loc then
            disk := { disk with entries := disk.entries ++ [(place, entry, time)] }
  return disk

/-- Write back what a run has changed at a location. -/
def settleAt (before after : Disk) (loc place : Location) : IO Unit := do
  let isReplaced := match before.entry? place, after.entry? place with
    | none, _ => false
    | some (.link _), some (.link _) => false
    | some (.link _), _ => true
    | some _, found => found.isNone
  if isReplaced then IO.FS.removeFile loc.text
  if let .ok place := after.find true loc then
    if before.stamped? place ≠ after.stamped? place then
      match after.entry? place with
      | some (.file bytes) => IO.FS.writeBinFile loc.text ⟨bytes.toArray⟩
      | some .folder =>
        if before.entry? place ≠ some .folder then IO.FS.createDir loc.text
      | _ => return

/-- Write back what a run has changed. -/
def settle (vault : Vault) (before after : Disk) : IO Unit := do
  let mut settled := []
  for loc in visible vault do
    if let .ok place := after.find false loc then
      unless settled.contains place do
        settled := place :: settled
        settleAt before after loc place

/-- Run a command line with these settings. -/
def runWith (settings : Settings) (args : List String) : IO UInt32 := do
  let before ← survey settings.vault
  let outcome := Console.run settings (fun _ _ => .unreachable "no network") before args
  settle settings.vault before outcome.disk
  IO.print outcome.printed
  if let some mishap := outcome.mishap? then
    IO.eprintln mishap.message
  if let some serving := outcome.serving? then
    IO.eprintln s!"{serving.title}: {serving.host}:{serving.port}: no network"
  return outcome.exit.toUInt32

end TaskTree.Program

/-- Run the command line of the program. -/
def main (args : List String) : IO UInt32 := do
  match TaskTree.Settings.ofEnvironment (← TaskTree.Program.environment) .other with
  | .ok settings => TaskTree.Program.runWith settings args
  | .error mishap =>
    IO.eprintln mishap.message
    return 1
