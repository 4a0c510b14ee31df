import TaskTree.Tables.Basic
import TaskTree.Node.Json
import TaskTree.Json.Printer

/-!
# Contents of rows

The row of an item keeps its title, its description and its state as the text
of an object.  Every look at a row reads that text, also where only the kind of
the row matters, so a row whose content is no JSON is a mishap to everybody
who looks at it.  Fields that the object lacks have a value all the same.
Rows that no command has written may hold any values for a title and a
description; what becomes of an item without texts is left out.
-/

namespace TaskTree

/-- A row with its content read. -/
structure ReadRow where
  row : Row
  content : Option Json
  deriving Repr

/-- The fields of an item as the content of a row has them. -/
structure ItemFields where
  title : Json
  description : Json
  state : TaskState
  deriving Repr

namespace ItemFields

/-- The fields of an item. -/
def ofItem (item : Item) : ItemFields :=
  ⟨.string item.title, .string item.description, item.state⟩

/-- The text that keeps the fields. -/
def text (fields : ItemFields) : String :=
  Json.line <| .object [("title", fields.title), ("description", fields.description),
    ("state", .string fields.state.word)]

/-- The item with these fields, if they are texts. -/
def item? (fields : ItemFields) : Option Item :=
  match fields.title, fields.description with
  | .string title, .string description => some ⟨title, description, fields.state⟩
  | _, _ => none

/-- The object of a node with these fields. -/
def toJson (fields : ItemFields) : Json :=
  .object [("type", .string "item"), ("title", fields.title),
    ("description", fields.description), ("state", .string fields.state.word)]

/-- The fields with the state the other one. -/
def toggled (fields : ItemFields) : ItemFields :=
  { fields with state := fields.state.toggled }

/-- The fields of an item make the item. -/
@[simp] theorem item?_ofItem (item : Item) : (ofItem item).item? = some item := rfl

end ItemFields

/-- Read the content of a row; an empty text is no content. -/
def Row.read (row : Row) : Except Mishap ReadRow :=
  match row.content with
  | none => .ok ⟨row, none⟩
  | some text =>
    if text = "" then .ok ⟨row, none⟩
    else
      match Json.read Json.textDepth text.toList with
      | .ok v => .ok ⟨row, some v⟩
      | .error refusal => .error (.ofRefusal text.toList refusal)

namespace ReadRow

/-- The members of the content.  Content that counts as nothing has none. -/
def members (read : ReadRow) : Except Mishap (List (String × Json)) :=
  match read.content with
  | none => .ok []
  | some v =>
    if v.isVoid then .ok []
    else
      match v with
      | .object members => .ok members
      | v => .error (.noMember v "get")

/-- The fields of the item of a row. -/
def fields (read : ReadRow) : Except Mishap ItemFields :=
  match read.members with
  | .error mishap => .error mishap
  | .ok members =>
    let state := (Named.find? "state" members).getD (.string TaskState.notDone.word)
    match Node.stateOfJson? state with
    | none => .error (.invalidState state)
    | some s =>
      .ok {
        title := (Named.find? "title" members).getD (.string "")
        description := (Named.find? "description" members).getD (.string "")
        state := s }

/-- The node of a row, without the nodes below it.  An item has texts for a title and a description.
Commands write nothing else into a row; a row with other values there, which only a hand can have
written, has no node here. -/
def node (read : ReadRow) : Except Failure Node :=
  match read.row.kind with
  | .group => .ok .emptySection
  | .item =>
    match read.fields with
    | .error mishap => .error (.mishap mishap)
    | .ok fields =>
      match fields.item? with
      | none => .error (.fault .itemFieldsNotText)
      | some item => .ok (.leaf item)

end ReadRow

namespace Tables

/-- The active row for a path, with its content. -/
def lookup (tables : Tables) (root path : String) : Except Mishap (Option ReadRow) :=
  match tables.find? root path with
  | none => .ok none
  | some row => row.read.map some

/-- Read rows up to the first whose content cannot be read. -/
def readAll : List Row → Except Mishap (List ReadRow)
  | [] => .ok []
  | row :: rest =>
    match row.read with
    | .error mishap => .error mishap
    | .ok read =>
      match readAll rest with
      | .error mishap => .error mishap
      | .ok reads => .ok (read :: reads)

/-- The active rows of a root, each after those that it lies below. -/
def list (tables : Tables) (root : String) : Except Mishap (List ReadRow) :=
  (readAll (tables.rowsOf root)).map fun reads =>
    reads.mergeSort fun a b => a.row.segments.precedes b.row.segments

end Tables

end TaskTree
