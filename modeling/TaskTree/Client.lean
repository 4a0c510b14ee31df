import TaskTree.Server.Basic

/-!
# The client

A client sends commands and queries to a server and reads the answers.  It
knows nothing about the server but its answers, and these may be anything: each
is read as a result, as the fault that the server tells of, or as a fault of
the way there.  A body that should be JSON and is not ends in a mishap.
-/

namespace TaskTree

/-- What comes back for a request: a response, or word that there is none. -/
inductive Reply where
  | response (response : Response)
  | unreachable (reason : String)
  deriving Repr

/-- A client of the server at an address, with the text that the address was given by. -/
structure Client where
  server : String
  address : Address
  deriving DecidableEq, Repr

namespace Client

/-- A text without the slashes at its end. -/
def trimSlashes (text : String) : String :=
  String.ofList (text.toList.reverse.dropWhile (· = '/')).reverse

/-- The client for the address that a text writes. -/
def ofText (text : String) : Except Mishap Client :=
  let server := trimSlashes text
  let address := (Address.parse server).bind fun address =>
    if address.target.toList.getLast? = some '/' then .ok address else (address.below {}).reread
  match address with
  | .error defect => .error (.badAddress defect)
  | .ok address => .ok ⟨server, address⟩

/-- The client for an address, or for `default` if none is given. -/
def ofSetting (given : Option String) (default : String) : Except Mishap Client :=
  match given with
  | none => ofText default
  | some "" => ofText default
  | some text => ofText text

/-- Check that a body can be sent to an address.  The numbers in the body have to be finite,
the host is sent in ASCII, and a name whose first label is encoded has to be right. -/
def checkSending (address : Address) (body : Body) : Except Mishap Unit :=
  if !body.isFinite then .error .notFinite
  else if !address.hostText.toList.all Text.isAscii then .error (.notAscii address.hostText)
  else (Host.checkName address.host.toList).mapError .badLabel

/-- The schemes of requests that are handed on within a program. -/
def arrivalSchemes : List String := ["http", "ws", "https", "wss"]

/-- Check that a request to an address can be handed on within a program. -/
def checkArrival (address : Address) : Except Mishap Unit :=
  if arrivalSchemes.contains address.scheme then .ok ()
  else .error (.unknownScheme address.scheme)

/-- A character that the text of an address to go on to keeps. -/
def keepsOnward (c : Char) : Bool :=
  Percent.isPlain c || ":/%#?=@[]!$&'()*+,;".toList.contains c

/-- The text of the address that a request goes on to, where a server knows the path in another
spelling. -/
def onwardText (address : Address) (path : String) : String :=
  let query := if address.query = some "" then none else address.query
  String.ofList <| Percent.encode keepsOnward <| String.toList <|
    address.scheme ++ "://" ++ address.hostText ++ path ++ Address.marked "?" query

/-- Check that a request can go on to the path that its server knows, if that has another
spelling.  The text of the address with that path is read anew. -/
def checkOnward (address : Address) : Except Mishap Unit :=
  let path := Server.resolve address.arrivingPath
  if path = address.arrivingPath then .ok ()
  else
    match Address.parse (onwardText address path) with
    | .ok _ => .ok ()
    | .error defect => .error (.badOnward defect)

/-- The address that a request is sent to, if it can be.  Parameters of its own take the
place of those in the address of the server. -/
def addressOf (client : Client) (request : Request) : Except Mishap Address :=
  let found := (client.address.below { path := request.path }).reread.bind fun address =>
    if request.params = [] then .ok address else address.withQuery request.params
  match found with
  | .error defect => .error (.badAddress defect)
  | .ok address => (checkSending address request.body).map fun () => address

/-- The request that sends these fields for a command. -/
def fieldsRequest (kind : CommandKind) (fields : List (String × Json)) : Request :=
  let (method, path) := Server.commandRoute kind
  { method, path, body := .value (.object fields) }

/-- The request that sends a command. -/
def commandRequest (command : Command) : Request :=
  fieldsRequest command.kind command.fields

/-- The request that sends a draft.  What its fields hold is left to the server. -/
def draftRequest (draft : Draft) : Request :=
  fieldsRequest draft.kind draft.fields

/-- The request for the node at a path below a root. -/
def nodeRequest (root : String) (path : Path) : Request :=
  let names := Path.clean path
  { method := .get, path := "/graph"
    params := ("root", root) :: if names = [] then [] else [("path", Path.format names)] }

/-- The request for the names of the roots. -/
def rootsRequest : Request := { method := .get, path := "/roots" }

/-- The kind of fault that a value on the wire means.  Arrays and objects cannot be
looked up. -/
def kindOfJson (v : Json) : Except Mishap FaultKind :=
  match v with
  | .string w => .ok (.ofWord w)
  | .array _ | .object _ => if v.isVoid then .ok .general else .error (.notHashable v)
  | _ => .ok .general

/-- The value of a body that tells of a fault; a body that is no JSON has no members. -/
def faultBody (body : Body) : Except Mishap Json :=
  match body.read with
  | .ok v => .ok v
  | .error (.refused _ (.deep nesting)) => .error (.textTooDeep nesting)
  | .error _ => .ok (.object [])

/-- The message of an answer: its own, or else all that it carries. -/
def messageOf (detail : Json) (body : Body) : String :=
  match detail with
  | .string message => message
  | _ => body.toText

/-- The fault that a response tells of. -/
def faultOf (response : Response) : Failure :=
  match faultBody response.body with
  | .error mishap => .mishap mishap
  | .ok v =>
    let detail := (v.member? "detail").getD .null
    let message := messageOf detail response.body
    if response.status = 422 ∧ detail.string? = none then .fault (.rejected detail)
    else
      match (v.member? "error").getD .null with
      | .null => .fault (.unexpectedStatus response.status message)
      | kind =>
        match kindOfJson kind with
        | .ok kind => .fault (.reported kind message)
        | .error mishap => .mishap mishap

/-- The response in the reply to a request that was sent to an address.  No response is
taken from an address without a type, nor from one with brackets where they cannot be. -/
def responseIn (client : Client) (address : Address) : Reply → Except Failure Response
  | .unreachable reason => .error (.fault (.unreachable client.server reason))
  | .response response =>
    if !address.hasType then .error (.mishap (.untyped address.shownText))
    else
      match address.checkBrackets with
      | .error defect => .error (.mishap (.badBrackets defect))
      | .ok () => .ok response

/-- Read the reply to a request that was sent to an address. -/
def hear {α : Type} (client : Client) (address : Address) (reply : Reply)
    (read : Response → Except Failure α) : Except Failure α :=
  (client.responseIn address reply).bind read

/-- What a response carries; nothing if its body is empty. -/
def payload (response : Response) : Except Failure (Option Json) :=
  if response.isSuccess then
    if response.body.isEmpty then .ok none
    else
      match response.body.read with
      | .ok v => .ok (some v)
      | .error unread => .error (.mishap (.ofUnread unread))
  else .error (faultOf response)

/-- A member of what a response carries.  A payload that counts as nothing has none, and
other payloads must be objects. -/
def memberOf (name : String) : Option Json → Except Failure (Option Json)
  | none => .ok none
  | some (.object members) => .ok (Named.find? name members)
  | some v => if v.isVoid then .ok none else .error (.mishap (.noMember v "get"))

/-- Read the response to a command. -/
def readDone (response : Response) : Except Failure Unit :=
  match payload response with
  | .error failure => .error failure
  | .ok _ => .ok ()

/-- Read a node, where null means that there is none. -/
def nodeOf : Option Json → Except Failure (Option Node)
  | none => .ok none
  | some .null => .ok none
  | some v =>
    match Node.ofJson v with
    | .ok node => .ok (some node)
    | .error fault => .error (.fault fault)

/-- Read the response to the request for a node. -/
def readNode (response : Response) : Except Failure (Option Node) :=
  match payload response with
  | .error failure => .error failure
  | .ok carried =>
    match memberOf "item" carried with
    | .error failure => .error failure
    | .ok item => nodeOf item

/-- Read the response to the request for the roots.  Whatever it is that the server calls
its roots is handed on, unless it counts as nothing. -/
def readRoots (response : Response) : Except Failure (Option Json) :=
  match payload response with
  | .error failure => .error failure
  | .ok carried =>
    match memberOf "roots" carried with
    | .error failure => .error failure
    | .ok roots => .ok (roots.filter fun v => !v.isVoid)

/-- Send a request to a server and read what comes back. -/
def ask {α : Type} (client : Client) (server : Server) (request : Request)
    (read : Response → Except Failure α) : Server × Except Failure α :=
  match client.addressOf request with
  | .error mishap => (server, .error (.mishap mishap))
  | .ok address =>
    let (server, response) := server.handle request
    (server, client.hear address (.response response) read)

/-- Let a server do what a command says. -/
def execute (client : Client) (server : Server) (command : Command) :
    Server × Except Failure Unit :=
  client.ask server (commandRequest command) readDone

/-- Ask a server for a node. -/
def get (client : Client) (server : Server) (root : String) (path : Path) :
    Server × Except Failure (Option Node) :=
  client.ask server (nodeRequest root path) readNode

/-- Ask a server for its roots. -/
def roots? (client : Client) (server : Server) : Server × Except Failure (Option Json) :=
  client.ask server rootsRequest readRoots

end Client

end TaskTree
