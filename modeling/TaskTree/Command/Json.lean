import TaskTree.Command.Basic
import TaskTree.Node.Json

/-!
# Commands as JSON

The object of a command names its kind and then has its fields.  Reading turns
an object into a draft: it fills in the fields that may be left out, reads the
state, and takes all other fields as they are.  A draft whose texts are strings
and whose paths are lists of strings is a command.
-/

namespace TaskTree

namespace CommandOf

variable {S P : Type}

/-- The fields of a command with their values, given the JSON of its texts and paths. -/
def fields (ofText : S → Json) (ofPath : P → Json) : CommandOf S P → List (String × Json)
  | .createRoot root => [("root", ofText root)]
  | .createSection root path => [("root", ofText root), ("path", ofPath path)]
  | .createItem root path title description state =>
    [("root", ofText root), ("path", ofPath path), ("title", ofText title),
      ("description", ofText description), ("state", .string state.word)]
  | .updateItem root path title description state =>
    [("root", ofText root), ("path", ofPath path), ("title", ofText title),
      ("description", ofText description), ("state", .string state.word)]
  | .toggleItem root path => [("root", ofText root), ("path", ofPath path)]
  | .move root src dest => [("root", ofText root), ("src", ofPath src), ("dest", ofPath dest)]
  | .archive root path => [("root", ofText root), ("path", ofPath path)]

end CommandOf

/-- The fields of a command. -/
def Command.fields (command : Command) : List (String × Json) :=
  CommandOf.fields Json.string Json.ofStrings command

/-- The fields of a draft. -/
def Draft.fields (draft : Draft) : List (String × Json) :=
  CommandOf.fields id id draft

/-- The object of a draft.  There is one whatever was given for the fields: that whoever copies
values by calls, one in the other, gives up at about 497 values within each other is left out. -/
def Draft.toJson (draft : Draft) : Json :=
  .object (("command", .string draft.kind.word) :: draft.fields)

/-- The draft that says what a command says. -/
def Command.toDraft : Command → Draft
  | .createRoot root => .createRoot (.string root)
  | .createSection root path => .createSection (.string root) (.ofStrings path)
  | .createItem root path title description state =>
    .createItem (.string root) (.ofStrings path) (.string title) (.string description) state
  | .updateItem root path title description state =>
    .updateItem (.string root) (.ofStrings path) (.string title) (.string description) state
  | .toggleItem root path => .toggleItem (.string root) (.ofStrings path)
  | .move root src dest => .move (.string root) (.ofStrings src) (.ofStrings dest)
  | .archive root path => .archive (.string root) (.ofStrings path)

/-- The object of a command. -/
def Command.toJson (command : Command) : Json :=
  Draft.toJson command.toDraft

namespace Draft

/-- A member of an object that a command has no field for.  The name of the command
itself counts as given twice. -/
def strayField? (kind : CommandKind) : List (String × Json) → Option PayloadDefect
  | [] => none
  | (name, _) :: rest =>
    if name = "self" then some .reservedTwice
    else if kind.required.contains name || kind.optional.contains name then strayField? kind rest
    else some (.unexpected name)

/-- The fields that must be given and are not. -/
def missingFields (kind : CommandKind) (members : Named Json) : List String :=
  kind.required.filter fun name => !Named.has name members

/-- What is wrong with the fields given for a command. -/
def payloadDefect? (kind : CommandKind) (members : Named Json) : Option PayloadDefect :=
  match strayField? kind members with
  | some defect => some defect
  | none =>
    match missingFields kind members with
    | [] => none
    | names => some (.missing names)

/-- The value of a field, or what stands for a field that was left out. -/
def fieldOr (name : String) (default : Json) (members : Named Json) : Json :=
  (Named.find? name members).getD default

/-- The draft with these fields. -/
def ofFields (kind : CommandKind) (state : TaskState) (members : Named Json) : Draft :=
  let given (name : String) := fieldOr name .null members
  let description := fieldOr "description" (.string "") members
  match kind with
  | .createRoot => .createRoot (given "root")
  | .createSection => .createSection (given "root") (given "path")
  | .createItem => .createItem (given "root") (given "path") (given "title") description state
  | .updateItem => .updateItem (given "root") (given "path") (given "title") description state
  | .toggleItem => .toggleItem (given "root") (given "path")
  | .move => .move (given "root") (given "src") (fieldOr "dest" (.array []) members)
  | .archive => .archive (given "root") (given "path")

/-- The state among the fields; it is read before the fields are counted. -/
def stateOf (members : Named Json) : Except Fault TaskState :=
  match Named.find? "state" members with
  | none => .ok .notDone
  | some v =>
    match Node.stateOfJson? v with
    | some state => .ok state
    | none => .error (.unknownState v)

/-- The kind of command that an object names.  Arrays and objects cannot be looked up. -/
def kindOf (members : Named Json) : Except Failure CommandKind :=
  match fieldOr "command" .null members with
  | .array vs => .error (.mishap (.notHashable (.array vs)))
  | .object ms => .error (.mishap (.notHashable (.object ms)))
  | .string w =>
    match CommandKind.ofWord? w with
    | some kind => .ok kind
    | none => .error (.fault (.unknownCommand (.string w)))
  | v => .error (.fault (.unknownCommand v))

/-- The draft that the members of an object describe. -/
def ofMembers (members : Named Json) : Except Failure Draft :=
  match kindOf members with
  | .error failure => .error failure
  | .ok kind =>
    let rest := Named.erase "command" members
    match stateOf rest with
    | .error fault => .error (.fault fault)
    | .ok state =>
      match payloadDefect? kind rest with
      | some defect => .error (.fault (.badPayload kind.title defect))
      | none => .ok (ofFields kind state rest)

/-- The command that a draft describes, if its texts and paths are such. -/
def command? : Draft → Option Command
  | .createRoot root => root.string?.map .createRoot
  | .createSection root path => do return .createSection (← root.string?) (← path.strings?)
  | .createItem root path title description state => do
    return .createItem (← root.string?) (← path.strings?) (← title.string?)
      (← description.string?) state
  | .updateItem root path title description state => do
    return .updateItem (← root.string?) (← path.strings?) (← title.string?)
      (← description.string?) state
  | .toggleItem root path => do return .toggleItem (← root.string?) (← path.strings?)
  | .move root src dest => do return .move (← root.string?) (← src.strings?) (← dest.strings?)
  | .archive root path => do return .archive (← root.string?) (← path.strings?)

end Draft

end TaskTree
