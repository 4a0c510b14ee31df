import TaskTree.Named
import TaskTree.Text.Split

/-!
# Options on a command line

Options stand before the first argument that is none.  An option with a value
has it after an equals sign, or else takes the next argument whatever that
looks like.  Names are written in full, flags of one letter can stand together
behind one dash, and two dashes alone end the options.
-/

namespace TaskTree.Console

/-- The options that are known at one place of a command line. -/
structure Grammar where
  /-- The options with a value. -/
  valued : List String := []
  /-- The options without a value. -/
  flags : List String := []
  /-- The letters that stand for flags. -/
  letters : List Char := []
  deriving Repr

/-- The options given, each with its value; a flag has none. -/
abbrev Given := Named String

/-- The argument is an option. -/
def isOption (arg : String) : Bool :=
  match arg.toList with
  | '-' :: _ :: _ => true
  | _ => false

/-- A text up to its first equals sign, and the text after that. -/
def splitValue (arg : String) : String × Option String :=
  match Text.split '=' arg.toList with
  | [] => (arg, none)
  | [_] => (arg, none)
  | name :: pieces => (String.ofList name, some (String.ofList (Text.join '=' pieces)))

/-- Letters behind one dash, all of which stand for flags. -/
def isCluster (grammar : Grammar) (arg : String) : Bool :=
  match arg.toList with
  | '-' :: letters => !letters.contains '-' && letters.all grammar.letters.contains
  | _ => false

/-- What an option is. -/
inductive Reading where
  /-- An option with its value. -/
  | whole (name value : String)
  /-- An option whose value is the next argument. -/
  | open (name : String)
  /-- A flag. -/
  | flag (name : String)
  /-- No known option, or a flag with a value. -/
  | wrong
  deriving DecidableEq, Repr

/-- Read one option. -/
def readOption (grammar : Grammar) (arg : String) : Reading :=
  let (name, value) := splitValue arg
  if grammar.valued.contains name then
    match value with
    | some v => .whole name v
    | none => .open name
  else if grammar.flags.contains name then
    if value = none then .flag name else .wrong
  else if isCluster grammar arg then .flag arg
  else .wrong

/-- The options at the front of the arguments, in order, and the arguments after them;
nothing if an option is wrong or lacks its value. -/
def scan (grammar : Grammar) : List String → Option (List (String × String) × List String)
  | [] => some ([], [])
  | arg :: rest =>
    if arg = "--" then some ([], rest)
    else if !isOption arg then some ([], arg :: rest)
    else
      match readOption grammar arg, rest with
      | .wrong, _ => none
      | .open _, [] => none
      | .open name, value :: rest =>
        (scan grammar rest).map fun found => ((name, value) :: found.1, found.2)
      | .whole name value, rest =>
        (scan grammar rest).map fun found => ((name, value) :: found.1, found.2)
      | .flag name, rest =>
        (scan grammar rest).map fun found => ((name, "") :: found.1, found.2)
termination_by args => args.length

/-- The options at the front of the arguments; of an option given twice the last counts. -/
def options (grammar : Grammar) (args : List String) : Option (Given × List String) :=
  (scan grammar args).map fun found => (Named.ofPairs found.1, found.2)

end TaskTree.Console
