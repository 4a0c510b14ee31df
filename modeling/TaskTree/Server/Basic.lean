import TaskTree.Server.Form
import TaskTree.Store

/-!
# The server

A server keeps a store and answers requests one after another.  Each of its
resources has the methods that it takes.  A command is answered without a
body; a fault is answered with its message, its kind, and a status that goes
with the kind.  A request that is refused before anything is done leaves the
store as it was.
-/

namespace TaskTree

/-- The status that goes with a kind of fault. -/
def FaultKind.status : FaultKind → Nat
  | .notFound => 404
  | .alreadyExists => 409
  | .invalidOperation => 400
  | .locked => 423
  | .io | .parse | .transport | .general => 500

/-- What a request can ask for. -/
inductive Server.Endpoint where
  | greeting
  | roots
  | graph
  | command (kind : CommandKind)
  /-- A page about the server itself. -/
  | manual
  deriving DecidableEq, Repr

/-- A server with its store and the disk below it. -/
structure Server where
  disk : Disk
  store : Store
  deriving Repr

namespace Server

/-- The method and the path for each kind of command. -/
def commandRoute : CommandKind → Method × String
  | .createRoot => (.post, "/roots")
  | .createSection => (.post, "/sections")
  | .createItem => (.post, "/items")
  | .updateItem => (.put, "/items")
  | .toggleItem => (.post, "/items/toggle")
  | .move => (.post, "/move")
  | .archive => (.post, "/archive")

/-- The paths of the pages about the server itself. -/
def manualPaths : List String :=
  ["/openapi.json", "/docs", "/docs/oauth2-redirect", "/redoc"]

/-- What can be asked of the pages about the server itself. -/
def manualRoutes : List (String × Method × Endpoint) :=
  manualPaths.flatMap fun path => [(path, .get, .manual), (path, .head, .manual)]

/-- All that can be asked for, with the method and the path of each. -/
def routes : List (String × Method × Endpoint) :=
  ("/", .get, .greeting) :: ("/roots", .get, .roots) :: ("/graph", .get, .graph) ::
    (CommandKind.all.map fun kind =>
      ((commandRoute kind).2, (commandRoute kind).1, .command kind)) ++ manualRoutes

/-- A path is the one of a route.  A line end behind it does not matter. -/
def isAt (path route : String) : Bool :=
  path = route || path = route ++ "\n"

/-- Something can be asked for at this path. -/
def knows (path : String) : Bool :=
  routes.any fun route => isAt path route.1

/-- The path without slashes at its end, or with one if it has none. -/
def otherSpelling (path : String) : String :=
  match path.toList.reverse with
  | '/' :: rest => String.ofList (rest.dropWhile (· = '/')).reverse
  | _ => path ++ "/"

/-- The path that a request means.  One that is not known may be spelled with other
slashes at its end. -/
def resolve (path : String) : String :=
  if knows path || path = "/" then path
  else if knows (otherSpelling path) then otherSpelling path
  else path

/-- What a request asks for, or the status that refuses it. -/
def endpoint (request : Request) : Except Nat Endpoint :=
  match routes.filter fun route => isAt (resolve request.path) route.1 with
  | [] => .error 404
  | here =>
    match here.find? fun route => route.2.1 = request.method with
    | some (_, _, endpoint) => .ok endpoint
    | none => .error 405

/-- The words for a status without a message of its own. -/
def statusText : Nat → String
  | 404 => "Not Found"
  | 405 => "Method Not Allowed"
  | _ => "Internal Server Error"

/-- The response of a server that does not know what to answer. -/
def lost : Response := ⟨500, .text (statusText 500)⟩

/-- The response to a refused request.  Problems are told with the values that they are
about, and of a number that is not finite nothing can be told. -/
def refuse : Form.Refusal → Response
  | .problems all =>
    let detail := Json.array (all.map Problem.toJson)
    if detail.isFinite then ⟨422, .value (.object [("detail", detail)])⟩ else lost
  | .unreadable => .refused 400 "There was an error parsing the body"

/-- The response that tells of a fault. -/
def ofFault (fault : Fault) : Response :=
  ⟨fault.kind.status, .value (.object
    [("detail", .string fault.message), ("error", .string fault.kind.word)])⟩

/-- The response that tells of a refusal; of a mishap it tells nothing more. -/
def ofFailure : Failure → Response
  | .fault fault => ofFault fault
  | .mishap _ => lost

/-- The response with the names of the roots. -/
def rootsResponse (roots : Option (List String)) : Response :=
  .ok (.object [("roots", .ofStrings (roots.getD []))])

/-- The deepest nesting of nodes that can be written into a response. -/
def answerDepth : Nat := 255

/-- The response with a node.  One that is nested too deeply cannot be written. -/
def nodeResponse : Option Node → Response
  | none => .ok (.object [("item", .null)])
  | some node => if node.depth ≤ answerDepth then .ok (.object [("item", node.toJson)]) else lost

/-- Do what a command says and answer. -/
def execute (server : Server) (command : Command) : Server × Response :=
  let after := server.store.execute server.disk command
  (⟨after.disk, after.store⟩,
    match after.result with
    | .ok () => .done
    | .error failure => ofFailure failure)

/-- Answer a query. -/
def answerQuery (server : Server) (params : List (String × String)) : Response :=
  match Form.query params with
  | .error refusal => refuse refusal
  | .ok (root, path) =>
    match server.store.get root path with
    | .ok node => nodeResponse node
    | .error failure => ofFailure failure

/-- Answer a request.  The words of the pages about the server itself are kept elsewhere:
here it is only known that they are there. -/
def handle (server : Server) (request : Request) : Server × Response :=
  match endpoint request with
  | .error status =>
    (server, if request.method = .head then ⟨status, .empty⟩
      else .refused status (statusText status))
  | .ok .greeting => (server, ⟨200, .text "Hello, hyperlog!"⟩)
  | .ok .roots => (server, rootsResponse server.store.roots?)
  | .ok .graph => (server, server.answerQuery request.params)
  | .ok .manual => (server, ⟨200, .empty⟩)
  | .ok (.command kind) =>
    match Form.read kind request.body with
    | .error refusal => (server, refuse refusal)
    | .ok command => server.execute command

/-- Start a server on the store at a place. -/
def start (disk : Disk) (place : Store.Place) (capacity : Int) :
    Disk × Except Failure Server :=
  match Store.start disk place capacity with
  | (disk, .ok store) => (disk, .ok ⟨disk, store⟩)
  | (disk, .error failure) => (disk, .error failure)

/-- Stop a server. -/
def stop (server : Server) : Server :=
  let (disk, store) := server.store.finish server.disk
  ⟨disk, store⟩

end Server

end TaskTree
