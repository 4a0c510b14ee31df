import TaskTree.Command.Basic
import TaskTree.Console.Options
import TaskTree.Decimal.Numeral
import TaskTree.Store

/-!
# What a command line asks for

A command line starts with options for all commands, names a command, perhaps
in a group, and ends with the options of that command.  A line that cannot be
read so is a wrong use of the program.
-/

namespace TaskTree.Console

/-- Where commands are run. -/
inductive Backend where
  | here
  | server
  deriving DecidableEq, Repr

/-- The backend that a word means. -/
def Backend.ofWord? (w : String) : Option Backend :=
  if w = "local" then some .here else if w = "remote" then some .server else none

/-- What to do. -/
inductive Action where
  | draw (root : String) (path : Path)
  | createRoot (name : String)
  | info
  | clearLock
  | serve (host : Option String) (port : Option Int) (store : Option StoreKind)
  | execute (command : Command)
  | printNode (root : String) (path : Path)
  | printRoots
  deriving Repr

/-- What to do, and where. -/
structure Invocation where
  backend : Backend
  server : Option String
  action : Action
  deriving Repr

/-- A command with its options, and how the options given make up an action. -/
structure Verb where
  name : String
  options : List String
  build : Given → Option Action

/-- The value of an option. -/
def text (name : String) (given : Given) : Option String :=
  Named.find? name given

/-- The value of an option, or what stands for one that is not given. -/
def textOr (name default : String) (given : Given) : String :=
  (text name given).getD default

/-- The path that an option gives. -/
def path (name : String) (given : Given) : Option Path :=
  (text name given).map Path.parse

/-- A value that only some texts have: nothing if the option is not given, and no reading
at all if its text has none. -/
def choice {α : Type} (name : String) (read : String → Option α) (given : Given) :
    Option (Option α) :=
  match text name given with
  | none => some none
  | some w => (read w).map some

/-- The state that an option gives. -/
def state (given : Given) : Option TaskState :=
  (choice "--state" TaskState.ofWord? given).map fun found => found.getD .notDone

/-- The command that makes or replaces an item. -/
def itemCommand (make : String → Path → String → String → TaskState → Command)
    (given : Given) : Option Action := do
  let root ← text "--root" given
  let path ← path "--path" given
  let title ← text "--title" given
  let state ← state given
  return .execute (make root path title (textOr "--description" "" given) state)

/-- The command at a path. -/
def pathCommand (make : String → Path → Command) (given : Given) : Option Action := do
  let root ← text "--root" given
  let path ← path "--path" given
  return .execute (make root path)

/-- The action on a node, the root being the default. -/
def nodeAction (make : String → Path → Action) (given : Given) : Option Action := do
  let root ← text "--root" given
  return make root (Path.parse (textOr "--path" "" given))

/-- The verbs that change the graph. -/
def execVerbs : List Verb :=
  [ ⟨"create-root", ["--root"], fun given => do
      return .execute (.createRoot (← text "--root" given))⟩,
    ⟨"create-section", ["--root", "--path"], pathCommand .createSection⟩,
    ⟨"create-item", ["--root", "--path", "--title", "--description", "--state"],
      itemCommand .createItem⟩,
    ⟨"update-item", ["--root", "--path", "--title", "--description", "--state"],
      itemCommand .updateItem⟩,
    ⟨"toggle-item", ["--root", "--path"], pathCommand .toggleItem⟩,
    ⟨"move", ["--root", "--src", "--dest"], fun given => do
      return .execute (.move (← text "--root" given) (← path "--src" given)
        (Path.parse (textOr "--dest" "" given)))⟩,
    ⟨"archive", ["--root", "--path"], pathCommand .archive⟩ ]

/-- The verbs that read the graph. -/
def queryVerbs : List Verb :=
  [ ⟨"get", ["--root", "--path"], nodeAction .printNode⟩,
    ⟨"roots", [], fun _ => some .printRoots⟩ ]

/-- The verbs that stand alone. -/
def plainVerbs : List Verb :=
  [ ⟨"show", ["--root", "--path"], nodeAction .draw⟩,
    ⟨"create-root", ["--name"], fun given => do
      return .createRoot (← text "--name" given)⟩,
    ⟨"info", [], fun _ => some .info⟩,
    ⟨"clear-lock", [], fun _ => some .clearLock⟩,
    ⟨"serve", ["--host", "--port", "--store"], fun given => do
      return .serve (text "--host" given) (← choice "--port" Numeral.argument? given)
        (← choice "--store" StoreKind.ofWord? given)⟩ ]

/-- Read a verb with its options; nothing may follow them. -/
def readVerb (verbs : List Verb) : List String → Option Action
  | [] => none
  | name :: args =>
    match verbs.find? fun verb => verb.name = name with
    | none => none
    | some verb =>
      match options { valued := verb.options } args with
      | some (given, []) => verb.build given
      | _ => none

/-- Read a verb of a group; a group has no options of its own. -/
def readGroup (verbs : List Verb) (args : List String) : Option Action :=
  match options {} args with
  | some (_, rest) => readVerb verbs rest
  | none => none

/-- Read what is to be done. -/
def readAction : List String → Option Action
  | "exec" :: args => readGroup execVerbs args
  | "query" :: args => readGroup queryVerbs args
  | args => readVerb plainVerbs args

/-- The options for all commands. -/
def commonOptions : Grammar where
  valued := ["--backend", "--backend-url"]
  flags := ["--verbose"]
  letters := ['v']

/-- Read a command line; nothing if it is a wrong use of the program. -/
def read (args : List String) : Option Invocation := do
  let (given, rest) ← options commonOptions args
  let backend ← choice "--backend" Backend.ofWord? given
  return ⟨backend.getD .here, text "--backend-url" given, ← readAction rest⟩

end TaskTree.Console
