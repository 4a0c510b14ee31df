import TaskTree.Fault
import TaskTree.Decimal.Numeral

/-!
# Settings

Settings come from variables of the environment; each has a value for the case
that its variable is not set.  They are read in a fixed order, and the first
one that cannot be read is reported.  A variable that no system could keep is
reported before any of them.
-/

namespace TaskTree

/-- The families of systems, which keep the data of users in different places. -/
inductive Platform where
  | windows
  | mac
  | other
  deriving DecidableEq, Repr

/-- The family that the name of a system belongs to. -/
def Platform.ofName (name : String) : Platform :=
  if name = "win32" then .windows else if name = "darwin" then .mac else .other

/-- Where things are kept and how the parts of the program talk to each other. -/
structure Settings where
  dataDir : Location
  lockStaleAfter : Binary64
  eventCapacity : Int
  backendUrl : String
  requestTimeout : Binary64
  serverHost : String
  serverPort : Int
  serverBackend : String
  logLevel : String
  deriving Repr

namespace Settings

/-- The variables of the environment. -/
abbrev Environment := Named String

/-- The variables that settings depend on. -/
def variableNames : List String :=
  ["HOME", "LOCALAPPDATA", "XDG_DATA_HOME", "HYPERLOG_DATA_DIR", "HYPERLOG_LOCK_STALE_SECONDS",
    "HYPERLOG_EVENT_CAPACITY", "HYPERLOG_BACKEND_URL", "HYPERLOG_REQUEST_TIMEOUT",
    "HYPERLOG_HOST", "HYPERLOG_PORT", "HYPERLOG_SERVER_BACKEND", "HYPERLOG_LOG_LEVEL"]

/-- The value of a variable, or what stands for a variable that is not set. -/
def value (env : Environment) (name default : String) : String :=
  (Named.find? name env).getD default

/-- The value of a variable that is set to something. -/
def nonempty? (env : Environment) (name : String) : Option String :=
  match Named.find? name env with
  | some "" => none
  | found => found

/-- A text without the slashes at its end; slashes alone are the root. -/
def withoutEndSlashes (text : String) : String :=
  match text.toList.reverse.dropWhile (· = '/') with
  | [] => "/"
  | cs => String.ofList cs.reverse

/-- The home of the user.  It must not need another home to be found. -/
def home (env : Environment) : Except Mishap Location :=
  let text := value env "HOME" "/"
  if text.startsWith "~" then .error .noHome
  else .ok (Location.parse (withoutEndSlashes text))

/-- The place for the data of the user's programs. -/
def userDataDir (env : Environment) (platform : Platform) : Except Mishap Location :=
  match home env with
  | .error m => .error m
  | .ok home =>
    .ok <| match platform with
      | .windows =>
        match nonempty? env "LOCALAPPDATA" with
        | some text => Location.parse text
        | none => (home.child "AppData").child "Local"
      | .mac => (home.child "Library").child "Application Support"
      | .other =>
        match nonempty? env "XDG_DATA_HOME" with
        | some text =>
          if (Location.parse text).isAbsolute then Location.parse text
          else (home.child ".local").child "share"
        | none => (home.child ".local").child "share"

/-- The place for the data of this program. -/
def findDataDir (env : Environment) (platform : Platform) : Except Mishap Location :=
  match nonempty? env "HYPERLOG_DATA_DIR" with
  | some text => .ok (Location.parse text)
  | none => userDataDir env platform

/-- A setting that is a real number. -/
def realSetting (env : Environment) (name default : String) : Except Mishap Binary64 :=
  let text := value env name default
  match Numeral.real? text with
  | some x => .ok x
  | none => .error (.notReal text)

/-- A setting that is a whole number. -/
def wholeSetting (env : Environment) (name default : String) : Except Mishap Int :=
  let text := value env name default
  match Numeral.readWhole text with
  | .ok n => .ok n
  | .error .notWhole => .error (.notWhole text)
  | .error (.tooManyDigits count) => .error (.longInteger count)

/-- Check that a system can keep a variable of this name with this value. -/
def checkVariable (name value : String) : Except Mishap Unit :=
  if (name ++ value).toList.contains '\x00' then .error .nullInName
  else if name.toList.contains '=' then .error .badVariable
  else if name = "" then .error .namelessVariable
  else .ok ()

/-- The settings that an environment gives. -/
def ofEnvironment (env : Environment) (platform : Platform) : Except Mishap Settings := do
  env.forM fun (name, value) => checkVariable name value
  let dataDir ← findDataDir env platform
  let lockStaleAfter ← realSetting env "HYPERLOG_LOCK_STALE_SECONDS" "86400"
  let eventCapacity ← wholeSetting env "HYPERLOG_EVENT_CAPACITY" "10"
  let requestTimeout ← realSetting env "HYPERLOG_REQUEST_TIMEOUT" "10.0"
  let serverPort ← wholeSetting env "HYPERLOG_PORT" "3000"
  return {
    dataDir, lockStaleAfter, eventCapacity, requestTimeout, serverPort
    backendUrl := value env "HYPERLOG_BACKEND_URL" "http://127.0.0.1:3000"
    serverHost := value env "HYPERLOG_HOST" "127.0.0.1"
    serverBackend := value env "HYPERLOG_SERVER_BACKEND" "file"
    logLevel := value env "HYPERLOG_LOG_LEVEL" "WARNING" }

/-- The file of the tables. -/
def databaseFile (settings : Settings) : Location :=
  (settings.dataDir.child "hyperlog").child "hyperlog.db"

end Settings

end TaskTree
