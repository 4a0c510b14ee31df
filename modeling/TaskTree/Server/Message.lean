import TaskTree.Address.Basic
import TaskTree.Json.Printer
import TaskTree.Json.Received
import TaskTree.Text.Upper

/-!
# Messages between client and server

A request asks for something at a path; a response answers with a status.  The
body of either is a value that was sent as JSON, or a text or bytes as they came, or
it is not there at all.
-/

namespace TaskTree

/-- What a request wants to do at its path. -/
inductive Method where
  | get
  | post
  | put
  | head
  /-- A method that nothing takes. -/
  | other (word : String)
  deriving DecidableEq, Repr

/-- The word for a method. -/
def Method.word : Method → String
  | get => "GET"
  | post => "POST"
  | put => "PUT"
  | head => "HEAD"
  | other word => word

/-- The method that a word means, in either case. -/
def Method.ofWord (w : String) : Method :=
  let upper := Text.upper w
  ([get, post, put, head].find? fun method => method.word = upper).getD (other upper)

/-- What a message carries. -/
inductive Body where
  | empty
  | value (v : Json)
  | text (s : String)
  | bytes (bs : List UInt8)
  deriving Repr

namespace Body

/-- A body as text. -/
def toText : Body → String
  | .empty => ""
  | .value v => v.line
  | .text s => s
  | .bytes bs => String.ofList (Utf8.decodeReplacing bs)

/-- The body holds nothing. -/
def isEmpty : Body → Bool
  | .empty => true
  | .value _ => false
  | .text s => s = ""
  | .bytes bs => bs = []

/-- The numbers in a body are finite, as far as it is a value. -/
def isFinite : Body → Bool
  | .value v => v.isFinite
  | _ => true

/-- The value of a body. -/
def read : Body → Except Json.Unread Json
  | .value v => .ok v
  | .bytes bs => Json.receive Json.textDepth bs
  | body => Json.receive Json.textDepth (Utf8.encode body.toText)

end Body

/-- A request, with the parameters of its query. -/
structure Request where
  method : Method
  path : String
  params : List (String × String) := []
  body : Body := .empty
  deriving Repr

/-- The request for what an address asks for. -/
def Request.to (address : Address) (method : Method) (body : Body) : Request where
  method
  path := address.arrivingPath
  params := address.queryPairs
  body

/-- A response.  Nothing keeps a server from answering with numbers that are no status. -/
structure Response where
  status : Int
  body : Body := .empty
  deriving Repr

namespace Response

/-- The status tells of success. -/
def isSuccess (response : Response) : Bool :=
  200 ≤ response.status && response.status < 300

/-- A response without a body, which tells that all went well. -/
def done : Response := ⟨204, .empty⟩

/-- A response that carries a value. -/
def ok (v : Json) : Response := ⟨200, .value v⟩

/-- A response that refuses with a reason. -/
def refused (status : Nat) (reason : String) : Response :=
  ⟨status, .value (.object [("detail", .string reason)])⟩

end Response

end TaskTree
