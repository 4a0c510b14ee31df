import TaskTree.Node.Basic

/-!
# Nodes as JSON

The object of a node starts with its kind.  An item has its three fields after
it, in a fixed order; a branch has the nodes below it, in the order of their
names.  Reading accepts the members in any order, and the members of an item
that are none of its fields do not matter.  Nodes are read to a given depth.
-/

namespace TaskTree.Node

/-- The deepest nesting of nodes that is read. -/
def nodeDepth : Nat := 490

/-- The object of an item. -/
def itemJson (item : Item) : Json :=
  .object [("type", .string "item"), ("title", .string item.title),
    ("description", .string item.description), ("state", .string item.state.word)]

mutual

/-- The object of a node. -/
def toJson : Node → Json
  | .leaf item => itemJson item
  | .branch kind children =>
    .object (("type", .string kind.word) :: Named.sorted (childrenJson children))

/-- The objects of named nodes, under their names. -/
def childrenJson : List (String × Node) → List (String × Json)
  | [] => []
  | (name, child) :: rest => (name, child.toJson) :: childrenJson rest

end

/-- The state that a value means. -/
def stateOfJson? : Json → Option TaskState
  | .string s => TaskState.ofWord? s
  | _ => none

/-- The value of a field of an item. -/
def itemField (name : String) (members : Named Json) : Except Fault Json :=
  match Named.find? name members with
  | none => .error (.itemFieldMissing name)
  | some v => .ok v

/-- The item that the members of an object describe. -/
def itemOfMembers (members : Named Json) : Except Fault Item :=
  match itemField "title" members with
  | .error fault => .error fault
  | .ok title =>
    match itemField "description" members with
    | .error fault => .error fault
    | .ok description =>
      match itemField "state" members with
      | .error fault => .error fault
      | .ok state =>
        match stateOfJson? state with
        | none => .error (.unknownState state)
        | some s =>
          match title, description with
          | .string t, .string d => .ok ⟨t, d, s⟩
          | _, _ => .error .itemFieldsNotText

/-- What the kind of an object announces. -/
inductive Shape where
  | item
  | branch (kind : BranchKind)
  | unknown (value : Json)

/-- The shape that the member for the kind announces; without it the kind is null. -/
def shapeOf (members : Named Json) : Shape :=
  match Named.find? Path.reserved members with
  | none => .unknown .null
  | some (.string w) =>
    if w = "item" then .item
    else
      match BranchKind.ofWord? w with
      | some kind => .branch kind
      | none => .unknown (.string w)
  | some v => .unknown v

mutual

/-- The node that a value describes, with `depth` levels left. -/
def ofJsonAt : (depth : Nat) → Json → Except Fault Node
  | 0, _ => .error .graphTooDeep
  | depth + 1, .object members =>
    match shapeOf members with
    | .unknown v => .error (.unknownNodeKind v)
    | .item =>
      match itemOfMembers members with
      | .error fault => .error fault
      | .ok item => .ok (.leaf item)
    | .branch kind =>
      match childrenOfJson depth members with
      | .error fault => .error fault
      | .ok children => .ok (.branch kind children)
  | _ + 1, v => .error (.nodeNotObject v)

/-- The nodes that the members of an object describe, but for the one that tells its kind. -/
def childrenOfJson : (depth : Nat) → List (String × Json) → Except Fault (List (String × Node))
  | _, [] => .ok []
  | depth, (name, v) :: rest =>
    if name = Path.reserved then childrenOfJson depth rest
    else
      match ofJsonAt depth v with
      | .error fault => .error fault
      | .ok child =>
        match childrenOfJson depth rest with
        | .error fault => .error fault
        | .ok children => .ok ((name, child) :: children)

end

/-- The node that a value describes. -/
def ofJson (v : Json) : Except Fault Node :=
  ofJsonAt nodeDepth v

end TaskTree.Node
