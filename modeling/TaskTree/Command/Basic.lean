import TaskTree.Graph.Basic

/-!
# Commands

The seven things that can be done to a graph.  The form of a command is the
same whether its texts are checked or not, so the type takes the type of a
text and the type of a path as parameters: a `Command` has strings and paths,
and a `Draft` has whatever JSON values were given for them.
-/

namespace TaskTree

/-- A command whose texts have the type `S` and whose paths have the type `P`. -/
inductive CommandOf (S P : Type) where
  | createRoot (root : S)
  | createSection (root : S) (path : P)
  | createItem (root : S) (path : P) (title description : S) (state : TaskState)
  | updateItem (root : S) (path : P) (title description : S) (state : TaskState)
  | toggleItem (root : S) (path : P)
  | move (root : S) (src dest : P)
  | archive (root : S) (path : P)
  deriving DecidableEq, Repr

/-- A command. -/
abbrev Command := CommandOf String Path

/-- A command with unchecked texts and paths. -/
abbrev Draft := CommandOf Json Json

/-- The kinds of commands. -/
inductive CommandKind where
  | createRoot
  | createSection
  | createItem
  | updateItem
  | toggleItem
  | move
  | archive
  deriving DecidableEq, Repr

namespace CommandKind

/-- All kinds of commands. -/
def all : List CommandKind :=
  [createRoot, createSection, createItem, updateItem, toggleItem, move, archive]

/-- The word for a kind of command. -/
def word : CommandKind → String
  | createRoot => "create_root"
  | createSection => "create_section"
  | createItem => "create_item"
  | updateItem => "update_item"
  | toggleItem => "toggle_item"
  | move => "move"
  | archive => "archive"

/-- The kind that a word means. -/
def ofWord? (w : String) : Option CommandKind :=
  all.find? fun kind => kind.word = w

/-- The name of a kind of command in messages about its fields. -/
def title : CommandKind → String
  | createRoot => "CreateRoot"
  | createSection => "CreateSection"
  | createItem => "CreateItem"
  | updateItem => "UpdateItem"
  | toggleItem => "ToggleItem"
  | move => "Move"
  | archive => "Archive"

/-- The fields that must be given. -/
def required : CommandKind → List String
  | createRoot => ["root"]
  | createSection => ["root", "path"]
  | createItem => ["root", "path", "title"]
  | updateItem => ["root", "path", "title"]
  | toggleItem => ["root", "path"]
  | move => ["root", "src"]
  | archive => ["root", "path"]

/-- The fields that may be left out. -/
def optional : CommandKind → List String
  | createItem => ["description", "state"]
  | updateItem => ["description", "state"]
  | move => ["dest"]
  | _ => []

/-- A word is read as the kind of command that it was written for. -/
@[simp] theorem ofWord?_word (kind : CommandKind) : ofWord? kind.word = some kind := by
  cases kind <;> decide

end CommandKind

/-- The kind of a command. -/
def CommandOf.kind {S P : Type} : CommandOf S P → CommandKind
  | .createRoot _ => .createRoot
  | .createSection .. => .createSection
  | .createItem .. => .createItem
  | .updateItem .. => .updateItem
  | .toggleItem .. => .toggleItem
  | .move .. => .move
  | .archive .. => .archive

/-- Do what a command says. -/
def Graph.execute (graph : Graph) : Command → Graph.Change
  | .createRoot root => .ofExcept graph (graph.createRoot root)
  | .createSection root path => .ofExcept graph (graph.create root path .emptySection)
  | .createItem root path title description state =>
    .ofExcept graph (graph.create root path (.leaf ⟨title, description, state⟩))
  | .updateItem root path title description state =>
    .ofExcept graph (graph.updateItem root path (.leaf ⟨title, description, state⟩))
  | .toggleItem root path => .ofExcept graph (graph.toggleItem root path)
  | .move root src dest => graph.move root src dest
  | .archive root path => .ofExcept graph (graph.delete root path)

end TaskTree
