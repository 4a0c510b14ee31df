import TaskTree.Tables.Content

/-!
# Commands on tables

The seven commands do to tables what they do to graphs, with two differences.
What is archived stays in the table, hidden.  A move looks at the destination
before it touches a row, so a refused move loses nothing; it is refused, too,
when the destination lies in the subtree that moves.  A refused command leaves
the tables as they were.
-/

namespace TaskTree.Tables

/-- A result that can break a rule, as a refusal. -/
def liftBroken {α : Type} : Except Constraint α → Except Failure α
  | .ok a => .ok a
  | .error rule => .error (.mishap (.broken rule))

/-- A result that can be a mishap, as a refusal. -/
def liftMishap {α : Type} : Except Mishap α → Except Failure α
  | .ok a => .ok a
  | .error mishap => .error (.mishap mishap)

/-- Refuse an unknown root. -/
def requireRoot (tables : Tables) (root : String) : Except Failure Unit :=
  if tables.hasRoot root then .ok () else .error (.fault (.rootMissing root))

/-- What is at the place where a node goes. -/
inductive Place where
  /-- The root or a section. -/
  | branch
  /-- An item. -/
  | item
  /-- No active row. -/
  | missing
  deriving DecidableEq, Repr

/-- What is at a path, the empty one being the root. -/
def placeAt (tables : Tables) (root : String) (path : Path) : Except Failure Place :=
  if path = [] then .ok .branch
  else
    match tables.lookup root (Path.format path) with
    | .error mishap => .error (.mishap mishap)
    | .ok none => .ok .missing
    | .ok (some read) => .ok (if read.row.kind = .item then .item else .branch)

/-- Put a row at a path, over the subtree that is there. -/
def create (tables : Tables) (root : String) (path : Path) (kind : RowKind)
    (content : Option String) : Except Failure Tables :=
  if path = [] then .error (.fault .emptyPath)
  else do
    liftFault (Path.check path)
    tables.requireRoot root
    match ← tables.placeAt root path.dropLast with
    | .missing => .error (.fault (.placeMissing (Path.format path.dropLast)))
    | .item => .error (.fault .insertIntoItem)
    | .branch =>
      let dotted := Path.format path
      liftBroken ((tables.deleteSubtree root dotted).insert root dotted kind.word content)

/-- Give a row the path and the content of another item, over the subtree that is there. -/
def rename (tables : Tables) (row : Row) (path : String) (item : Item) :
    Except Constraint Tables :=
  let cleared := if path = row.path then tables else tables.deleteSubtree row.root path
  cleared.setPathAndContent row.id path (ItemFields.ofItem item).text

/-- Replace the item at a path, and keep it under the name of its new title. -/
def updateItem (tables : Tables) (root : String) (path : Path) (item : Item) :
    Except Failure Tables :=
  if path = [] then .ok tables
  else do
    tables.requireRoot root
    match ← tables.placeAt root path.dropLast with
    | .missing => .ok tables
    | .item => .error (.fault .renameInsideItem)
    | .branch =>
      match ← liftMishap (tables.lookup root (Path.format path)) with
      | none => .ok tables
      | some ⟨row, _⟩ =>
        if row.kind = .item then do
          let name := Path.nameOfTitle item.title
          liftFault (Path.checkSegment name)
          liftBroken (tables.rename row (Path.format (path.dropLast ++ [name])) item)
        else .error (.fault (.foundNotAnItem (Path.place root path)))

/-- Put the item at a path in its other state. -/
def toggleItem (tables : Tables) (root : String) (path : Path) : Except Failure Tables := do
  tables.requireRoot root
  if path = [] then .error (.fault (.notAnItem root))
  else
    match ← liftMishap (tables.lookup root (Path.format path)) with
    | none => .ok tables
    | some read =>
      if read.row.kind = .item then do
        let fields ← liftMishap read.fields
        liftBroken (tables.setContent read.row.id fields.toggled.text)
      else .error (.fault (.notAnItem (Path.place root path)))

/-- Move the row at a path, of which only that it is there is known, under a destination. -/
def moveUnder (tables : Tables) (root : String) (src dest : Path) (name : String) :
    Except Failure Tables :=
  let oldPath := Path.format src
  let newPath := Path.format (dest ++ [name])
  if src.isPrefixOf dest then .error (.fault .moveIntoItself)
  else if newPath = oldPath then .ok tables
  else do
    match ← liftMishap (tables.lookup root newPath) with
    | some _ => .error (.fault (.nameTaken name))
    | none => liftBroken (tables.moveSubtree root oldPath newPath)

/-- Move the node at a path under a destination; it keeps its name. -/
def move (tables : Tables) (root : String) (src dest : Path) : Except Failure Tables := do
  tables.requireRoot root
  match src.getLast? with
  | none => .error (.fault .sourceMissing)
  | some name =>
    match ← liftMishap (tables.lookup root (Path.format src)) with
    | none => .error (.fault .sourceMissing)
    | some _ =>
      match ← tables.placeAt root dest with
      | .missing => .error (.fault (.placeMissing (Path.format dest)))
      | .item => .error (.fault .destinationIsItem)
      | .branch => tables.moveUnder root src dest name

/-- Archive the node at a path with all that is below it. -/
def archive (tables : Tables) (root : String) (path : Path) : Except Failure Tables := do
  tables.requireRoot root
  if path = [] ∨ tables.subtreeSize root (Path.format path) = 0 then
    .error (.fault .nodeMissing)
  else .ok (tables.archiveSubtree root (Path.format path))

/-- Add a root that has a name. -/
def createRoot (tables : Tables) (root : String) : Except Failure Tables :=
  if root = "" then .error (.fault .emptyRoot) else liftFault (tables.addRoot root)

/-- Do what a command says. -/
def execute (tables : Tables) : Command → Except Failure Tables
  | .createRoot root => tables.createRoot root
  | .createSection root path => tables.create root path .group none
  | .createItem root path title description state =>
    tables.create root path .item (some (ItemFields.ofItem ⟨title, description, state⟩).text)
  | .updateItem root path title description state =>
    tables.updateItem root path ⟨title, description, state⟩
  | .toggleItem root path => tables.toggleItem root path
  | .move root src dest => tables.move root src dest
  | .archive root path => tables.archive root path

end TaskTree.Tables
