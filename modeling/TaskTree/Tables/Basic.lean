import TaskTree.Command.Basic
import TaskTree.Tables.Value
import TaskTree.Text.Visible

/-!
# Tables of roots and nodes

Graphs can be kept flat.  One table has the names of the roots; the other has a
row for each node, with the text of its path.  The rows are in the order in
which they were added, and each has a number of its own.  Archived rows stay
in the table, but only active rows count: no two active rows of a root have the
same path.

A subtree is the active rows whose path is a given one or goes on after it with
a dot.  Its rows are changed one after another in the order in which they were
added, and the change is refused as a whole when one of them meets a path that
is taken.
-/

namespace TaskTree

/-- What a row is about. -/
inductive RowKind where
  | group
  | item
  deriving DecidableEq, Repr

namespace RowKind

/-- The word for a kind of row. -/
def word : RowKind → String
  | group => "SECTION"
  | item => "ITEM"

/-- The kind that a word means. -/
def ofWord? (w : String) : Option RowKind :=
  if w = "SECTION" then some group else if w = "ITEM" then some item else none

/-- A word is read as the kind of row that it was written for. -/
@[simp] theorem ofWord?_word (k : RowKind) : ofWord? k.word = some k := by
  cases k <;> decide

end RowKind

/-- A row for a node. -/
structure Row where
  id : Nat
  root : String
  path : String
  kind : RowKind
  content : Option String
  active : Bool := true
  deriving DecidableEq, Repr

namespace Row

/-- The word for whether a row is active. -/
def status (row : Row) : String :=
  if row.active then "active" else "archive"

/-- The names on the way to the node of a row. -/
def segments (row : Row) : Path :=
  Path.splitText row.path

end Row

/-- The names of the roots, and the rows for nodes in the order in which they came.
`nextId` is the number of the next row. -/
structure Tables where
  roots : List String := []
  rows : List Row := []
  nextId : Nat := 0
  deriving DecidableEq, Repr

namespace Tables

/-- Tables without roots and rows. -/
def empty : Tables := ⟨[], [], 0⟩

/-- The root is there. -/
def hasRoot (tables : Tables) (root : String) : Bool :=
  tables.roots.contains root

/-- The names of the roots in order. -/
def rootNames (tables : Tables) : List String :=
  tables.roots.mergeSort fun a b => decide (a ≤ b)

/-- Add a root. -/
def addRoot (tables : Tables) (root : String) : Except Fault Tables :=
  if tables.hasRoot root then .error (.rootExists root)
  else .ok { tables with roots := tables.roots ++ [root] }

/-- The row stands for this path. -/
def standsAt (root path : String) (row : Row) : Bool :=
  row.active && row.root == root && row.path == path

/-- The active row for a path. -/
def find? (tables : Tables) (root path : String) : Option Row :=
  tables.rows.find? (standsAt root path)

/-- The active rows of a root. -/
def rowsOf (tables : Tables) (root : String) : List Row :=
  tables.rows.filter fun row => row.active && row.root == root

/-- Another row than the one numbered `id` has this path. -/
def isTaken (tables : Tables) (root path : String) (id : Nat) : Bool :=
  tables.rows.any fun row => standsAt root path row && row.id != id

/-- Add an active row.  The word for its kind is looked at first, then its path, and then
its root. -/
def insert (tables : Tables) (root path kindWord : String) (content : Option String) :
    Except Constraint Tables :=
  match RowKind.ofWord? kindWord with
  | none => .error .knownKind
  | some kind =>
    if (tables.find? root path).isSome then .error .uniquePath
    else if !tables.hasRoot root then .error .knownRoot
    else
      .ok { tables with
        rows := tables.rows ++ [⟨tables.nextId, root, path, kind, content, true⟩]
        nextId := tables.nextId + 1 }

/-- Put `row` in the place of the row with its number.  An active row needs a path that no
other active row has. -/
def replace (tables : Tables) (row : Row) : Except Constraint Tables :=
  if row.active && tables.isTaken row.root row.path row.id then .error .uniquePath
  else .ok { tables with rows := tables.rows.map fun r => if r.id = row.id then row else r }

/-- The row with a number. -/
def row? (tables : Tables) (id : Nat) : Option Row :=
  tables.rows.find? fun row => row.id == id

/-- Set the path and the content of a row; nothing happens without the row. -/
def setPathAndContent (tables : Tables) (id : Nat) (path content : String) :
    Except Constraint Tables :=
  match tables.row? id with
  | none => .ok tables
  | some row => tables.replace { row with path, content := some content }

/-- Set the content of a row; nothing happens without the row. -/
def setContent (tables : Tables) (id : Nat) (content : String) : Except Constraint Tables :=
  match tables.row? id with
  | none => .ok tables
  | some row => tables.replace { row with content := some content }

/-- The columns of a row that can be set by name. -/
def settableFields : List String := ["path", "item_content"]

/-- A row with columns set; a path cannot be set to nothing. -/
def setFields : List (String × Option String) → Row → Except Constraint Row
  | [], row => .ok row
  | (name, value) :: rest, row =>
    if name = "path" then
      match value with
      | none => .error .hasPath
      | some path => setFields rest { row with path }
    else setFields rest { row with content := value }

/-- What an update is given besides columns: where the row is, and which one it is. -/
def updateArguments : List String := ["conn", "node_id"]

/-- Why columns with these names cannot be set.  A name that the update needs for itself
goes before one that is no column to set. -/
def updateDefect? (names : List String) : Option Mishap :=
  match names.find? updateArguments.contains with
  | some name => some (.givenTwice name)
  | none => (names.find? fun name => !settableFields.contains name).map .fixedField

/-- Set columns of the row with a number, if it is there.  The names of the columns are
looked at before anything else, and then the values. -/
def update (tables : Tables) (id : Option Nat) (fields : List (String × Json)) :
    Except Mishap Tables :=
  match updateDefect? (fields.map Prod.fst), columnTexts 1 fields with
  | some mishap, _ => .error mishap
  | none, .error mishap => .error mishap
  | none, .ok texts =>
    match id.bind tables.row? with
    | none => .ok tables
    | some row =>
      match setFields texts row with
      | .error rule => .error (.broken rule)
      | .ok row =>
        match tables.replace row with
        | .error rule => .error (.broken rule)
        | .ok tables => .ok tables

/-- A path goes on after `path` and a dot, as far as it counts. -/
def goesOnAfter (path candidate : String) : Bool :=
  let front := path.toList ++ [Path.separator]
  Text.visibleTake (Text.visibleLength front) candidate.toList == front

/-- The row belongs to the subtree of a path. -/
def isWithin (root path : String) (row : Row) : Bool :=
  row.active && row.root == root && (row.path == path || goesOnAfter path row.path)

/-- Remove a subtree. -/
def deleteSubtree (tables : Tables) (root path : String) : Tables :=
  { tables with rows := tables.rows.filter fun row => !isWithin root path row }

/-- Archive a subtree. -/
def archiveSubtree (tables : Tables) (root path : String) : Tables :=
  { tables with
    rows := tables.rows.map fun row =>
      if isWithin root path row then { row with active := false } else row }

/-- The number of rows of a subtree. -/
def subtreeSize (tables : Tables) (root path : String) : Nat :=
  tables.rows.countP (isWithin root path)

/-- The path that a row of the subtree of `src` has after a move to `dest`. -/
def movedPath (src dest path : String) : String :=
  dest ++ String.ofList (Text.visibleDrop src.length path.toList)

/-- Move rows one after another. -/
def moveRows (src dest : String) : List Row → Tables → Except Constraint Tables
  | [], tables => .ok tables
  | row :: rest, tables =>
    match tables.replace { row with path := movedPath src dest row.path } with
    | .error rule => .error rule
    | .ok tables => moveRows src dest rest tables

/-- The rows of a subtree, in the order in which they were added. -/
def subtree (tables : Tables) (root path : String) : List Row :=
  tables.rows.filter (isWithin root path)

/-- Move a subtree to another path. -/
def moveSubtree (tables : Tables) (root src dest : String) : Except Constraint Tables :=
  moveRows src dest (tables.subtree root src) tables

end Tables

end TaskTree
