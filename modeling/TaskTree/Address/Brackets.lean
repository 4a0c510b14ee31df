import TaskTree.Address.Basic

/-!
# Brackets in addresses

Whoever takes a response looks once more at the text of the address that it
comes from.  What stands there behind the scheme and two slashes is taken for
the server, even where it is part of the path.  Brackets in it have to be a
pair, with a user in front at most and a port behind it at most, and hold a
host of groups, or one of a version to come.
-/

namespace TaskTree.Brackets

/-- What is wrong with the brackets of a server. -/
inductive Defect where
  | misplaced
  | badVersion
  | quad
  | noNumbers (host : List Char)
  deriving DecidableEq, Repr

/-- What is wrong, in words. -/
def Defect.message : Defect → String
  | misplaced => "Invalid IPv6 URL"
  | badVersion => "IPvFuture address is invalid"
  | quad => "An IPv4 address cannot be in brackets"
  | noNumbers host =>
    s!"{Text.quoted (String.ofList host)} does not appear to be an IPv4 or IPv6 address"

/-- A host of a version to come: the letter, the version, a point and at least one more
character. -/
def isVersioned : List Char → Bool
  | 'v' :: rest =>
    let version := rest.takeWhile fun c => (Text.hexValue? c).isSome
    version ≠ [] &&
      match rest.drop version.length with
      | '.' :: host => host ≠ []
      | _ => false
  | _ => false

/-- Check a host that stands in brackets. -/
def checkHost (host : List Char) : Except Defect Unit :=
  if host.head? = some 'v' then
    if isVersioned host then .ok () else .error .badVersion
  else if Numbers.isQuad host then .error .quad
  else if Numbers.isGrouped host then .ok ()
  else .error (.noNumbers host)

/-- Check a host and its port, where brackets stand around the host or before both. -/
def checkPlace (place : List Char) : Except Defect Unit :=
  match Text.cut '[' place with
  | (host, none) => checkHost (Text.cut ':' host).1
  | ([], some inside) =>
    let (host, behind) := Text.cut ']' inside
    if behind.all fun port => port.head?.all (· = ':') then checkHost host
    else .error .misplaced
  | (_ :: _, some _) => .error .misplaced

/-- Check the brackets in the text of a server. -/
def check (server : List Char) : Except Defect Unit :=
  if server.contains '[' ≠ server.contains ']' then .error .misplaced
  else if server.contains '[' then checkPlace (Address.splitUser server).2
  else .ok ()

end TaskTree.Brackets

namespace TaskTree.Address

/-- What stands in the text of an address where the server should be. -/
def serverInText (a : Address) : List Char :=
  match (splitScheme a.plainText).2 with
  | '/' :: '/' :: rest => rest.takeWhile fun c => c ≠ '/' && c ≠ '?' && c ≠ '#'
  | _ => []

/-- Check the brackets in the text of an address. -/
def checkBrackets (a : Address) : Except Brackets.Defect Unit :=
  Brackets.check a.serverInText

end TaskTree.Address
