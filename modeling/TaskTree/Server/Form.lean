import TaskTree.Command.Json
import TaskTree.Server.Message
import TaskTree.Server.Problem

/-!
# Reading requests

A form reads the command that the body of a request describes.  Each field is
read on its own and yields a value or problems; the problems of all fields are
put together in the order of the fields.  Members that are no fields do not
matter.
-/

namespace TaskTree

/-- A value, or all problems that keep from having it. -/
inductive Checked (α : Type) where
  | value (a : α)
  | problems (first : Problem) (more : List Problem)

namespace Checked

variable {α β : Type}

/-- One problem. -/
def problem (p : Problem) : Checked α := .problems p []

/-- Use the value, if there is one. -/
def map (f : α → β) : Checked α → Checked β
  | .value a => .value (f a)
  | .problems first more => .problems first more

/-- Two values; the problems of the first come before those of the second. -/
def both : Checked α → Checked β → Checked (α × β)
  | .value a, .value b => .value (a, b)
  | .value _, .problems first more => .problems first more
  | .problems first more, .value _ => .problems first more
  | .problems first more, .problems next rest => .problems first (more ++ next :: rest)

/-- A value of which something has to hold, or a problem. -/
def ofOption (p : Problem) : Option α → Checked α
  | some a => .value a
  | none => problem p

end Checked

namespace Form

/-- Read a field that must be given. -/
def required {α : Type} (name : String) (read : String → Json → Checked α)
    (members : Named Json) : Checked α :=
  match Named.find? name members with
  | none => .problem (.ofField .missing name (.object members))
  | some v => read name v

/-- Read a field that may be left out. -/
def optional {α : Type} (name : String) (default : α) (read : String → Json → Checked α)
    (members : Named Json) : Checked α :=
  match Named.find? name members with
  | none => .value default
  | some v => read name v

/-- A text. -/
def text (name : String) (v : Json) : Checked String :=
  .ofOption (.ofField .notText name v) v.string?

/-- The name of a root, which is not empty. -/
def rootName (name : String) : Json → Checked String
  | .string "" => .problem (.ofField .emptyText name (.string ""))
  | v => text name v

/-- The state of an item. -/
def state (name : String) (v : Json) : Checked TaskState :=
  .ofOption (.ofField .notState name v) (Node.stateOfJson? v)

/-- Texts, the first of them being the element numbered `index`. -/
def texts (name : String) : (index : Nat) → List Json → Checked (List String)
  | _, [] => .value []
  | index, v :: rest =>
    ((Checked.ofOption (.ofElement .notText name index v) v.string?).both
      (texts name (index + 1) rest)).map fun pair => pair.1 :: pair.2

/-- What is wrong with the first name of a path that cannot be one. -/
def segmentFault? : Path → Option Problem.Kind
  | [] => none
  | segment :: rest =>
    if segment = "" then some .emptySegment
    else if Path.separator ∈ segment.toList then some .dottedSegment
    else segmentFault? rest

/-- A path whose names are such; it may be empty. -/
def segments (name : String) : Json → Checked Path
  | .array elements =>
    match texts name 0 elements with
    | .problems first more => .problems first more
    | .value path =>
      match segmentFault? path with
      | some kind => .problem (.ofField kind name (.array elements))
      | none => .value path
  | v => .problem (.ofField .notList name v)

/-- A path that leads somewhere below a root. -/
def nodePath (name : String) : Json → Checked Path
  | .array [] => .problem (.ofField .emptyPath name (.array []))
  | v => segments name v

/-- A root and a path. -/
def placed (members : Named Json) : Checked (String × Path) :=
  (required "root" rootName members).both (required "path" nodePath members)

/-- A root, a path, and what an item has. -/
def itemised (members : Named Json) : Checked ((String × Path) × Item) :=
  (placed members).both <|
    ((required "title" text members).both
      ((optional "description" "" text members).both
        (optional "state" .notDone state members))).map
      fun fields => ⟨fields.1, fields.2.1, fields.2.2⟩

/-- The command of one kind that the members of a body describe. -/
def command (kind : CommandKind) (members : Named Json) : Checked Command :=
  match kind with
  | .createRoot => (required "root" rootName members).map .createRoot
  | .createSection => (placed members).map fun p => .createSection p.1 p.2
  | .createItem =>
    (itemised members).map fun p =>
      .createItem p.1.1 p.1.2 p.2.title p.2.description p.2.state
  | .updateItem =>
    (itemised members).map fun p =>
      .updateItem p.1.1 p.1.2 p.2.title p.2.description p.2.state
  | .toggleItem => (placed members).map fun p => .toggleItem p.1 p.2
  | .move =>
    ((required "root" rootName members).both
      ((required "src" nodePath members).both
        (optional "dest" [] segments members))).map fun p => .move p.1 p.2.1 p.2.2
  | .archive => (placed members).map fun p => .archive p.1 p.2

/-- The command of one kind that a value describes. -/
def ofValue (kind : CommandKind) : Json → Checked Command
  | .object members => command kind members
  | v => .problem (.ofBody .notObject v)

/-- Why a request is refused before anything is done. -/
inductive Refusal where
  /-- The problems that were found. -/
  | problems (all : List Problem)
  /-- The body could not be read, for a reason other than that it is no JSON. -/
  | unreadable

/-- The command of one kind that a body describes. -/
def read (kind : CommandKind) (body : Body) : Except Refusal Command :=
  if body.isEmpty then .error (.problems [.ofBody .missing .null])
  else
    match body.read with
    | .error (.refused text (.malformed _ rest)) =>
      .error (.problems [.ofText (Json.offsetOf text rest)])
    | .error _ => .error .unreadable
    | .ok v =>
      match ofValue kind v with
      | .value command => .ok command
      | .problems first more => .error (.problems (first :: more))

/-- The root and the path that the parameters of a query ask for; of a parameter given
twice the last counts. -/
def query (params : List (String × String)) : Except Refusal (String × Path) :=
  let given := Named.ofPairs params
  match Named.find? "root" given with
  | none => .error (.problems [.ofParam .missing "root" .null])
  | some "" => .error (.problems [.ofParam .emptyText "root" (.string "")])
  | some root => .ok (root, Path.parse ((Named.find? "path" given).getD ""))

end Form

end TaskTree
