import TaskTree.Session
import TaskTree.Tables.Execute
import TaskTree.Tables.File
import TaskTree.Tables.Query

/-!
# Stores

Graphs are kept in one of two ways: in a snapshot, or in tables.  A store takes
commands and answers queries in either way.  Commands on tables are all or
nothing; whoever listens hears about a command once it is done.
-/

namespace TaskTree

/-- The ways to keep graphs. -/
inductive StoreKind where
  | file
  | tables
  deriving DecidableEq, Repr

namespace StoreKind

/-- The word for a way to keep graphs. -/
def word : StoreKind → String
  | file => "file"
  | tables => "sqlite"

/-- The way that a word means. -/
def ofWord? (w : String) : Option StoreKind :=
  if w = "file" then some file else if w = "sqlite" then some tables else none

/-- The way that a setting asks for. -/
def ofSetting (w : String) : Except Mishap StoreKind :=
  match ofWord? w with
  | some kind => .ok kind
  | none => .error (.unknownStore w)

/-- A word is read as the way that it was written for. -/
@[simp] theorem ofWord?_word (k : StoreKind) : ofWord? k.word = some k := by
  cases k <;> decide

end StoreKind

/-- Tables, with those who listen if anybody can. -/
structure TableStore where
  tables : Tables
  hub? : Option (Events Command) := none
  /-- The place of the file that the tables are kept in, if there is one. -/
  home? : Option Tables.Home := none
  deriving Repr

namespace TableStore

/-- The tables can only be read. -/
def isReadOnly (store : TableStore) : Bool :=
  store.home?.any (·.isReadOnly)

/-- Tables after a command.  What would change tables that can only be read is refused before
the rules of the tables are looked at. -/
def tablesAfter (store : TableStore) (command : Command) : Except Failure Tables :=
  match store.tables.execute command with
  | .ok tables =>
    if store.isReadOnly ∧ tables ≠ store.tables then .error (.mishap .tablesReadOnly)
    else .ok tables
  | .error (.fault (.rootExists root)) =>
    .error (if store.isReadOnly then .mishap .tablesReadOnly else .fault (.rootExists root))
  | .error failure => .error failure

/-- Do what a command says, and tell the listeners. -/
def execute (store : TableStore) (command : Command) : TableStore × Except Failure Unit :=
  match store.tablesAfter command with
  | .error failure => (store, .error failure)
  | .ok tables =>
    ({ store with tables, hub? := store.hub?.map (·.announce command) }, .ok ())

end TableStore

/-- A store in use. -/
inductive Store where
  | file (session : Session)
  | tables (store : TableStore)
  deriving Repr

namespace Store

/-- A disk and a store after a command, with what came of it. -/
structure After where
  disk : Disk
  store : Store
  result : Except Failure Unit

/-- Do what a command says. -/
def execute (disk : Disk) (command : Command) : Store → After
  | .file session =>
    let after := session.execute disk command
    ⟨after.disk, .file after.session, after.result⟩
  | .tables store =>
    let (store, result) := store.execute command
    ⟨disk, .tables store, result⟩

/-- The node at a path below a root.  A snapshot hands out copies, so a node that is nested too
deeply cannot be got from it; tables make the node anew. -/
def get (root : String) (path : Path) : Store → Except Failure (Option Node)
  | .file session => session.get root path
  | .tables store => store.tables.get root path

/-- The names of the roots in order; nothing if there is none. -/
def roots? : Store → Option (List String)
  | .file session => session.roots?
  | .tables store => store.tables.roots?

/-- Those who listen. -/
def hub? : Store → Option (Events Command)
  | .file session => some session.hub
  | .tables store => store.hub?

/-- A store with other listeners. -/
def withHub (hub : Events Command) : Store → Store
  | .file session => .file { session with hub }
  | .tables store => .tables { store with hub? := some hub }

/-- Listen to a store from now on.  Nobody can listen where there are no listeners. -/
def subscribe (store : Store) : Except Mishap (Store × Nat) :=
  match store.hub? with
  | none => .error (.noMember .null "subscribe")
  | some hub =>
    let (hub, id) := hub.subscribe
    .ok (store.withHub hub, id)

/-- A store that nobody listens to, if it can do without a hub. -/
def withoutHub : Store → Store
  | .file session => .file session
  | .tables store => .tables { store with hub? := none }

/-- The tables of a store that keeps tables. -/
def tables? : Store → Option Tables
  | .file _ => none
  | .tables store => some store.tables

/-- Where a store keeps its graphs. -/
inductive Place where
  /-- In a snapshot. -/
  | vault (vault : Vault)
  /-- In tables that are gone with the store. -/
  | memory
  /-- In tables in a file; `saved` are the ones that were last kept there. -/
  | tableFile (file : Location) (saved : Tables)
  deriving DecidableEq, Repr

/-- Start to use a store. -/
def start (disk : Disk) (place : Place) (capacity : Int) : Disk × Except Failure Store :=
  match place with
  | .vault vault =>
    let (disk, result) := Session.start disk vault capacity
    (disk, result.map .file)
  | .memory => (disk, .ok (.tables ⟨.empty, some (.withCapacity capacity), none⟩))
  | .tableFile loc saved =>
    match Tables.openFile disk loc saved with
    | (disk, .error mishap) => (disk, .error (.mishap mishap))
    | (disk, .ok home) =>
      (disk, .ok (.tables ⟨home.kept, some (.withCapacity capacity), some home⟩))

/-- Stop using a store.  Tables in a file are then the ones that are kept there. -/
def finish (disk : Disk) : Store → Disk × Store
  | .file session =>
    let (disk, session) := session.finish disk
    (disk, .file session)
  | .tables store =>
    match store.home? with
    | none => (disk, .tables store)
    | some home =>
      let (disk, kept) := Tables.closeFile disk home store.tables
      (disk, .tables { store with tables := kept })

end Store

end TaskTree
