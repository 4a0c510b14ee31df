import TaskTree.Address.Host
import TaskTree.Address.Query
import TaskTree.Text.Quoted

/-!
# Addresses

An address tells where a server is and what is asked of it: a scheme, a user, a
host, a port, a path, a query and a fragment, of which all may be absent.
Reading brings it into its normal form.  Scheme and host are in small letters,
a port that goes with the scheme anyway is left out, names that stand for the
same folder or the one above are resolved, and characters that have no place
where they stand are encoded.

What is asked for can be put below an address.  It goes to the end of all that
the address asks for, its query included.
-/

namespace TaskTree

/-- An address in its normal form. -/
structure Address where
  scheme : String := ""
  user : String := ""
  host : String := ""
  port : Option Int := none
  path : String := ""
  query : Option String := none
  fragment : Option String := none
  deriving DecidableEq, Repr

namespace Address

/-- Why a text is no address. -/
inductive Defect where
  | tooLong
  | partTooLong (part : String)
  | controlCharacter (c : Char) (offset : Nat)
  | badHost (defect : Host.Defect)
  | badPort (port : String)
  | badStart (start : String)
  deriving DecidableEq, Repr

/-- The name for what a host is taken for. -/
def hostTitle : Host.Kind → String
  | .quad => "IPv4 address"
  | .groups => "IPv6 address"
  | .name => "IDNA hostname"

/-- What is wrong, in words. -/
def Defect.message : Defect → String
  | tooLong => "URL too long"
  | partTooLong part => s!"URL component {Text.quoted part} too long"
  | controlCharacter c offset =>
    s!"Invalid non-printable ASCII character in URL, {Text.quoted c.toString} " ++
      s!"at position {offset}."
  | badHost host => s!"Invalid {hostTitle host.kind}: {Text.quoted (String.ofList host.text)}"
  | badPort port => s!"Invalid port: {Text.quoted port}"
  | badStart start => s!"Relative URLs cannot have a path starting with {Text.quoted start}"

/-- The most characters that an address may have, and each part of it once it is encoded. -/
def maxLength : Nat := 65536

/-- The ports that go with schemes. -/
def schemePorts : List (String × Int) :=
  [("ftp", 21), ("http", 80), ("https", 443), ("ws", 80), ("wss", 443)]

/-- A character that a path keeps. -/
def keepsInPath : Char → Bool := Percent.isVisibleBut "\"#<>?`\x7b\x7d"

/-- A character that a query keeps. -/
def keepsInQuery : Char → Bool := Percent.isVisibleBut "\"#<>"

/-- A character that a fragment keeps. -/
def keepsInFragment : Char → Bool := Percent.isVisibleBut "\"<>`"

/-- A character that a user keeps. -/
def keepsInUser : Char → Bool := Percent.isVisibleBut "\"#<>?`\x7b\x7d/;=@[\\]^|"

/-- Add a name to the names of a path: `.` is no step, and `..` is a step back. -/
def addStep (names : List (List Char)) (name : List Char) : List (List Char) :=
  if name = ['.'] then names
  else if name = ['.', '.'] then (if names = [[]] then names else names.dropLast)
  else names ++ [name]

/-- A path without names that only tell a way. -/
def resolveSteps (path : List Char) : List Char :=
  Text.join '/' ((Text.split '/' path).foldl addStep [])

/-- A character inside the name of a scheme. -/
def isSchemeChar (c : Char) : Bool :=
  c.isAlphanum || c = '+' || c = '.' || c = '-'

/-- The scheme at the front of a text, and the text behind its colon. -/
def splitScheme (cs : List Char) : List Char × List Char :=
  let name := cs.takeWhile isSchemeChar
  match cs.drop name.length with
  | ':' :: rest => if name.head?.all Char.isAlpha then (name, rest) else ([], cs)
  | _ => ([], cs)

/-- The server at the front of a text, which stands behind two slashes, and the rest. -/
def splitServer : List Char → List Char × List Char
  | '/' :: '/' :: rest =>
    let server := rest.takeWhile (· ≠ '/')
    (server, rest.drop server.length)
  | cs => ([], cs)

/-- The user in front of the last `@`, and the rest. -/
def splitUser (cs : List Char) : List Char × List Char :=
  (Text.cutLast '@' cs).getD ([], cs)

/-- The host at the front of a text, and the text of the port behind it. -/
def splitHost (cs : List Char) : List Char × List Char :=
  let inBrackets := (cs.reverse.dropWhile (· ≠ ']')).reverse
  let host :=
    if cs.head? = some '[' ∧ inBrackets ≠ [] then inBrackets
    else cs.takeWhile fun c => c ≠ ':' && c ≠ '@'
  match cs.drop host.length with
  | ':' :: port => (host, port)
  | port => (host, port)

/-- The port that a text writes, unless it goes with the scheme. -/
def portOf (scheme : String) (text : List Char) : Except Defect (Option Int) :=
  if text = [] then .ok none
  else
    match Numeral.readWhole (String.ofList text) with
    | .error _ => .error (.badPort (String.ofList text))
    | .ok n => .ok (if schemePorts.lookup scheme = some n then none else some n)

/-- The address tells more than a path. -/
def isPlaced (a : Address) : Bool :=
  a.scheme ≠ "" || a.user ≠ "" || a.host ≠ "" || a.port.isSome

/-- What a path without a server in front must not start with, if it does. -/
def badStart? (a : Address) (path : List Char) : Option String :=
  if a.isPlaced then none
  else ["//", ":"].find? fun start => start.toList.isPrefixOf path

/-- The address with another path and query. -/
def withTarget (a : Address) (path : List Char) (query : Option (List Char)) : Address :=
  let resolved := if a.isPlaced then resolveSteps path else path
  { a with
    path := String.ofList (Percent.encode keepsInPath resolved)
    query := query.map fun q => String.ofList (Percent.encode keepsInQuery q) }

/-- The address of the parts of a text that has no control characters. -/
def ofParts (cs : List Char) : Except Defect Address :=
  let (front, fragment) := Text.cut '#' cs
  let (front, query) := Text.cut '?' front
  let (schemeText, front) := splitScheme front
  let (server, path) := splitServer front
  let (user, server) := splitUser server
  let (hostText, portText) := splitHost server
  let scheme := String.ofList (schemeText.map Char.toLower)
  match Host.normalise hostText, portOf scheme portText with
  | .error defect, _ => .error (.badHost defect)
  | _, .error defect => .error defect
  | .ok host, .ok port =>
    let place : Address :=
      { scheme, port
        user := String.ofList (Percent.encode keepsInUser user)
        host := String.ofList host
        fragment := fragment.map fun f => String.ofList (Percent.encode keepsInFragment f) }
    match place.badStart? path with
    | some start => .error (.badStart start)
    | none => .ok (place.withTarget path query)

/-- A control character of ASCII. -/
def isControl (c : Char) : Bool :=
  c.toNat < 0x20 || c.toNat = 0x7f

/-- The address that a text writes. -/
def parse (text : String) : Except Defect Address :=
  let cs := text.toList
  if maxLength < cs.length then .error .tooLong
  else
    match cs.dropWhile fun c => !isControl c with
    | c :: rest => .error (.controlCharacter c (cs.length - rest.length - 1))
    | [] => ofParts cs

/-- The text of the host of an address, with its port. -/
def hostText (a : Address) : String :=
  (if a.host.toList.contains ':' then "[" ++ a.host ++ "]" else a.host) ++
    (a.port.map fun n => ":" ++ toString n).getD ""

/-- The text of the server of an address. -/
def serverText (a : Address) : String :=
  (if a.user = "" then "" else a.user ++ "@") ++ a.hostText

/-- A part of an address behind its mark. -/
def marked (mark : String) (part : Option String) : String :=
  (part.map (mark ++ ·)).getD ""

/-- The text of an address. -/
def text (a : Address) : String :=
  (if a.scheme = "" then "" else a.scheme ++ ":") ++
    (if a.serverText = "" then "" else "//" ++ a.serverText) ++
    a.path ++ marked "?" a.query ++ marked "#" a.fragment

/-- What an address asks its server for. -/
def target (a : Address) : String :=
  (if a.path = "" then "/" else a.path) ++ marked "?" a.query

/-- Two addresses in one: all that the second one asks for goes below the first. -/
def below (a : Address) (reference : Address) : Address :=
  let front := a.target.toList
  let front := if front.getLast? = some '/' then front else front ++ ['/']
  let (path, query) := Text.cut '?' (front ++ reference.target.toList.dropWhile (· = '/'))
  a.withTarget path query

/-- An address that tells of a server by itself. -/
def isComplete (a : Address) : Bool :=
  a.scheme ≠ "" && a.host ≠ ""

/-- The name of the first part of an address that is too long. -/
def longPart? (a : Address) : Option String :=
  let parts :=
    [("authority", a.serverText), ("path", a.path), ("query", a.query.getD ""),
      ("fragment", a.fragment.getD "")]
  (parts.find? fun part => maxLength < part.2.length).map Prod.fst

/-- The address is read once more after a change.  A part of it can have grown when it was
encoded, and a name that goes beyond ASCII can have a form that looks like numbers. -/
def reread (a : Address) : Except Defect Address :=
  match a.longPart?, Host.checkQuad a.host.toList with
  | some part, _ => .error (.partTooLong part)
  | none, .error defect => .error (.badHost defect)
  | none, .ok () => .ok a

/-- The address that another one means, seen from `a`. -/
def refer (a : Address) (reference : Address) : Except Defect Address :=
  if reference.isComplete then .ok reference else (a.below reference).reread

/-- The address with these values in its query, and no others. -/
def withQuery (a : Address) (pairs : List (String × String)) : Except Defect Address :=
  reread { a with query := if pairs = [] then none else some (Query.encode pairs) }

/-- The text of an address as it is read where a response is taken: the mark `URL:` in front
is no part of it. -/
def plainText (a : Address) : List Char :=
  match a.text.toList with
  | 'U' :: 'R' :: 'L' :: ':' :: rest => rest
  | cs => cs

/-- The text of an address without its fragment, and the fragment. -/
def splitFragment (a : Address) : List Char × List Char :=
  (Text.cutLast '#' a.plainText).getD (a.plainText, [])

/-- The text of an address starts with a type, which stands before a colon. -/
def hasType (a : Address) : Bool :=
  let front := a.splitFragment.1
  let name := front.takeWhile fun c => c ≠ '/' && c ≠ ':'
  name ≠ [] && (front.drop name.length).head? = some ':'

/-- The text of an address without an empty fragment. -/
def shownText (a : Address) : String :=
  String.ofList (if a.splitFragment.2 = [] then a.splitFragment.1 else a.plainText)

/-- The path as it arrives at a server.  It is decoded by whoever sends it and by whoever
receives it. -/
def arrivingPath (a : Address) : String :=
  String.ofList (Percent.decode (Percent.decode (if a.path = "" then "/" else a.path).toList))

/-- The values in the query. -/
def queryPairs (a : Address) : List (String × String) :=
  Query.decode (a.query.getD "")

end Address

end TaskTree
