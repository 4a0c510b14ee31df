import TaskTree.Client
import TaskTree.Console.Action
import TaskTree.Node.Drawing
import TaskTree.Settings
import TaskTree.Text.Plain

/-!
# Running a command line

Each run opens the graph, does one thing, and closes the graph again, so no
lock outlives it.  A run for a server sends one request at most; how requests
are answered is up to the caller.  Faults are printed and end the run with the
exit code one; a mishap ends it without a word; a wrong use of the program has
the exit code two.
-/

namespace TaskTree

/-- The handle on the snapshot that settings ask for. -/
def Settings.vault (settings : Settings) : Vault :=
  { base := settings.dataDir, staleAfter := settings.lockStaleAfter.ceil }

namespace Console

/-- How a server would be started. -/
structure Serving where
  title : String
  host : String
  port : Int
  deriving DecidableEq, Repr

/-- What a run leaves behind. -/
structure Outcome where
  disk : Disk
  exit : Nat
  printed : String := ""
  mishap? : Option Mishap := none
  sent? : Option (Address × Request) := none
  serving? : Option Serving := none

/-- What requests lead to. -/
abbrev Transport := Address → Request → Reply

/-- A run that can go on. -/
structure Run (α : Type) where
  disk : Disk
  sent? : Option (Address × Request) := none
  result : Except Failure α

/-- Lines as they are printed. -/
def printLines (lines : List String) : String :=
  String.ofList ((lines.flatMap fun line => Text.withoutSequences line.toList ++ ['\n']))

/-- The end of a run that has lines to print, or was refused. -/
def Run.finish (run : Run (List String)) : Outcome :=
  match run.result with
  | .ok lines => { disk := run.disk, exit := 0, printed := printLines lines, sent? := run.sent? }
  | .error (.fault fault) =>
    { disk := run.disk, exit := 1, printed := printLines [s!"error: {fault.message}"],
      sent? := run.sent? }
  | .error (.mishap mishap) =>
    { disk := run.disk, exit := 1, mishap? := some mishap, sent? := run.sent? }

/-- Go on with a result. -/
def Run.andThen {α β : Type} (run : Run α) (f : α → Except Failure β) : Run β :=
  { disk := run.disk, sent? := run.sent?, result := run.result.bind f }

/-- Open the graph on this disk, use it, and close it. -/
def withSession {α : Type} (settings : Settings) (disk : Disk)
    (use : Disk → Session → Disk × Session × Except Failure α) : Run α :=
  match Session.start disk settings.vault settings.eventCapacity with
  | (disk, .error failure) => { disk, result := .error failure }
  | (disk, .ok session) =>
    let (disk, session, result) := use disk session
    { disk := (session.finish disk).1, result }

/-- The client for an invocation. -/
def clientFor (settings : Settings) (invocation : Invocation) : Except Mishap Client :=
  Client.ofSetting invocation.server settings.backendUrl

section

variable (settings : Settings) (transport : Transport) (invocation : Invocation) (disk : Disk)

/-- Send a request and read what comes back. -/
def ask {α : Type} (request : Request) (read : Response → Except Failure α) : Run α :=
  match clientFor settings invocation with
  | .error mishap => { disk, result := .error (.mishap mishap) }
  | .ok client =>
    match client.addressOf request with
    | .error mishap => { disk, result := .error (.mishap mishap) }
    | .ok address =>
      { disk
        sent? := some (address, request)
        result := client.hear address (transport address request) read }

/-- Do what a command says, here or at the server. -/
def execute (command : Command) : Run Unit :=
  match invocation.backend with
  | .here =>
    withSession settings disk fun disk session =>
      let after := session.execute disk command
      (after.disk, after.session, after.result)
  | .server =>
    ask settings transport invocation disk (Client.commandRequest command) Client.readDone

/-- The node at a path, here or at the server. -/
def node? (root : String) (path : Path) : Run (Option Node) :=
  match invocation.backend with
  | .here =>
    withSession settings disk fun disk session => (disk, session, session.get root path)
  | .server => ask settings transport invocation disk (Client.nodeRequest root path) Client.readNode

/-- What is known as the roots, here or at the server. -/
def roots : Run (Option Json) :=
  match invocation.backend with
  | .here =>
    withSession settings disk fun disk session =>
      (disk, session, .ok (session.roots?.map Json.ofStrings))
  | .server => ask settings transport invocation disk Client.rootsRequest Client.readRoots

end

/-- A value as a line: a string as it is, null as nothing, other values as their literal. -/
def lineOf : Json → String
  | .null => ""
  | v => v.inline

/-- What is called the roots, line by line: the elements of an array, the characters of a
string, or the names in an object. -/
def rootLines : Option Json → Except Failure (List String)
  | none => .ok ["[query roots] No roots found."]
  | some (.array elements) => .ok (elements.map lineOf)
  | some (.string s) => .ok (s.toList.map String.singleton)
  | some (.object members) => .ok (Named.names members)
  | some v => .error (.mishap (.notListable v))

/-- The drawing of a node that was looked for. -/
def drawing (root : String) (path : Path) : Option Node → Except Failure (List String)
  | none => .error (.fault (.nothingAt (Path.format (root :: path))))
  | some node => .ok [node.draw (path.getLast?.getD root)]

/-- How a server is started with these options. -/
def serve (settings : Settings) (host : Option String) (port : Option Int)
    (store : Option StoreKind) : Except Mishap Serving :=
  let chosen : Except Mishap StoreKind :=
    match store with
    | some kind => .ok kind
    | none => StoreKind.ofSetting settings.serverBackend
  match chosen with
  | .error mishap => .error mishap
  | .ok _ =>
    .ok {
      title := "hyperlog API"
      host := match host with
        | none => settings.serverHost
        | some "" => settings.serverHost
        | some host => host
      port := match port with
        | none => settings.serverPort
        | some 0 => settings.serverPort
        | some port => port }

/-- What `info` prints. -/
def infoLine (settings : Settings) (invocation : Invocation) : String :=
  match invocation.backend with
  | .here => settings.vault.info
  | .server =>
    let url := match invocation.server with
      | none => settings.backendUrl
      | some "" => settings.backendUrl
      | some url => url
    s!"remote:\n\turl: {url}"

/-- Do what an invocation asks for. -/
def perform (settings : Settings) (transport : Transport) (disk : Disk)
    (invocation : Invocation) : Outcome :=
  match invocation.action with
  | .draw root path =>
    ((node? settings transport invocation disk root path).andThen (drawing root path)).finish
  | .createRoot name =>
    ((execute settings transport invocation disk (.createRoot name)).andThen fun _ =>
      .ok [s!"[create-root] Created root {Text.quoted name}"]).finish
  | .info => Run.finish { disk, result := .ok [infoLine settings invocation] }
  | .clearLock =>
    let after := settings.vault.clearLock disk
    Run.finish {
      disk := after.disk
      result := after.result.map fun _ =>
        [s!"[clear-lock] Removed {settings.vault.lockFile.text}"] }
  | .serve host port store =>
    match serve settings host port store with
    | .ok serving => { disk, exit := 0, serving? := some serving }
    | .error mishap => { disk, exit := 1, mishap? := some mishap }
  | .execute command =>
    ((execute settings transport invocation disk command).andThen fun _ =>
      .ok [s!"[exec] {command.kind.word} ok"]).finish
  | .printNode root path =>
    ((node? settings transport invocation disk root path).andThen fun node =>
      .ok [((node.map Node.toJson).getD .null).pretty]).finish
  | .printRoots => ((roots settings transport invocation disk).andThen rootLines).finish

/-- Run a command line. -/
def run (settings : Settings) (transport : Transport) (disk : Disk) (args : List String) :
    Outcome :=
  match read args with
  | none => { disk, exit := 2 }
  | some invocation => perform settings transport disk invocation

end Console

end TaskTree
