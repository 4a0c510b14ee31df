import TaskTree.Store

/-!
# Statements and transactions

What a command does to tables, it does in steps.  First it looks at them, and may be refused.
Then come statements that write, in a transaction: if one of them is broken off, which can happen
when some of its rows are changed and others are not, the transaction as a whole is taken back.
The number of rows that were archived is looked at when the transaction is over.

`Tables.execute` tells at once what comes of this.
-/

namespace TaskTree

namespace Tables

/-- Work on tables.  It leaves tables behind also when it is refused. -/
abbrev Work := ExceptT Failure (StateM Tables)

namespace Work

/-- Tables are only looked at. -/
def look {α : Type} (question : Tables → Except Failure α) : Work α :=
  ExceptT.mk fun tables => (question tables, tables)

/-- Something is written, unless it is refused. -/
def write (change : Tables → Except Failure Tables) : Work Unit :=
  ExceptT.mk fun tables =>
    match change tables with
    | .ok after => (.ok (), after)
    | .error failure => (.error failure, tables)

/-- A transaction, which is taken back if its work is refused. -/
def whole {α : Type} (work : Work α) : Work α :=
  ExceptT.mk fun tables =>
    match work.run tables with
    | (.ok a, after) => (.ok a, after)
    | (.error failure, _) => (.error failure, tables)

/-- The statement that removes a subtree. -/
def removeRows (root path : String) : Work Unit :=
  modify (·.deleteSubtree root path)

/-- The statement that archives a subtree and counts its rows. -/
def archiveRows (root path : String) : Work Nat := do
  let count ← look fun tables => .ok (tables.subtreeSize root path)
  modify (·.archiveSubtree root path)
  return count

/-- The statement that moves rows, one after another. -/
def moveEach (src dest : String) : List Row → Work Unit
  | [] => pure ()
  | row :: rest => do
    write fun tables => liftBroken (tables.replace { row with path := movedPath src dest row.path })
    moveEach src dest rest

/-- Add a root that has a name. -/
def createRoot (root : String) : Work Unit :=
  if root = "" then throw (.fault .emptyRoot)
  else whole (write fun tables => liftFault (tables.addRoot root))

/-- Put a row at a path, over the subtree that is there. -/
def create (root : String) (path : Path) (kind : RowKind) (content : Option String) :
    Work Unit :=
  if path = [] then throw (.fault .emptyPath)
  else do
    look fun _ => liftFault (Path.check path)
    look (·.requireRoot root)
    match ← look (·.placeAt root path.dropLast) with
    | .missing => throw (.fault (.placeMissing (Path.format path.dropLast)))
    | .item => throw (.fault .insertIntoItem)
    | .branch => whole do
      removeRows root (Path.format path)
      write fun tables => liftBroken (tables.insert root (Path.format path) kind.word content)

/-- Give a row the path and the content of another item, over the subtree that is there. -/
def rename (row : Row) (path : String) (item : Item) : Work Unit := do
  if path = row.path then pure () else removeRows row.root path
  write fun tables =>
    liftBroken (tables.setPathAndContent row.id path (ItemFields.ofItem item).text)

/-- Replace the item at a path, and keep it under the name of its new title. -/
def updateItem (root : String) (path : Path) (item : Item) : Work Unit :=
  if path = [] then pure ()
  else do
    look (·.requireRoot root)
    match ← look (·.placeAt root path.dropLast) with
    | .missing => pure ()
    | .item => throw (.fault .renameInsideItem)
    | .branch =>
      match ← look fun tables => liftMishap (tables.lookup root (Path.format path)) with
      | none => pure ()
      | some ⟨row, _⟩ =>
        if row.kind = .item then do
          let name := Path.nameOfTitle item.title
          look fun _ => liftFault (Path.checkSegment name)
          whole (rename row (Path.format (path.dropLast ++ [name])) item)
        else throw (.fault (.foundNotAnItem (Path.place root path)))

/-- Put the item at a path in its other state. -/
def toggleItem (root : String) (path : Path) : Work Unit := do
  look (·.requireRoot root)
  if path = [] then throw (.fault (.notAnItem root))
  else
    match ← look fun tables => liftMishap (tables.lookup root (Path.format path)) with
    | none => pure ()
    | some read =>
      if read.row.kind = .item then do
        let fields ← look fun _ => liftMishap read.fields
        whole (write fun tables => liftBroken (tables.setContent read.row.id fields.toggled.text))
      else throw (.fault (.notAnItem (Path.place root path)))

/-- Move the row at a path, of which only that it is there is known, under a destination. -/
def moveUnder (root : String) (src dest : Path) (name : String) : Work Unit :=
  let oldPath := Path.format src
  let newPath := Path.format (dest ++ [name])
  if src.isPrefixOf dest then throw (.fault .moveIntoItself)
  else if newPath = oldPath then pure ()
  else do
    match ← look fun tables => liftMishap (tables.lookup root newPath) with
    | some _ => throw (.fault (.nameTaken name))
    | none => whole do
      let rows ← look fun tables => .ok (tables.subtree root oldPath)
      moveEach oldPath newPath rows

/-- Move the node at a path under a destination; it keeps its name. -/
def move (root : String) (src dest : Path) : Work Unit := do
  look (·.requireRoot root)
  match src.getLast? with
  | none => throw (.fault .sourceMissing)
  | some name =>
    match ← look fun tables => liftMishap (tables.lookup root (Path.format src)) with
    | none => throw (.fault .sourceMissing)
    | some _ =>
      match ← look (·.placeAt root dest) with
      | .missing => throw (.fault (.placeMissing (Path.format dest)))
      | .item => throw (.fault .destinationIsItem)
      | .branch => moveUnder root src dest name

/-- Archive the node at a path with all that is below it. -/
def archive (root : String) (path : Path) : Work Unit := do
  look (·.requireRoot root)
  let count ← if path = [] then pure 0 else whole (archiveRows root (Path.format path))
  if count = 0 then throw (.fault .nodeMissing) else pure ()

/-- Do what a command says. -/
def execute : Command → Work Unit
  | .createRoot root => createRoot root
  | .createSection root path => create root path .group none
  | .createItem root path title description state =>
    create root path .item (some (ItemFields.ofItem ⟨title, description, state⟩).text)
  | .updateItem root path title description state => updateItem root path ⟨title, description, state⟩
  | .toggleItem root path => toggleItem root path
  | .move root src dest => move root src dest
  | .archive root path => archive root path

end Work

end Tables

namespace TableStore

/-- Do what a command says to tables that can be written, step by step, and tell the listeners if
it is done. -/
def perform (store : TableStore) (command : Command) : TableStore × Except Failure Unit :=
  match (Tables.Work.execute command).run store.tables with
  | (.error failure, tables) => ({ store with tables }, .error failure)
  | (.ok (), tables) =>
    ({ store with tables, hub? := store.hub?.map (·.announce command) }, .ok ())

end TableStore

end TaskTree
