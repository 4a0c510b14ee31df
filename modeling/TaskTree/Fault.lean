import TaskTree.Address.Brackets
import TaskTree.Disk.Basic
import TaskTree.Json.Literal
import TaskTree.Json.Received
import TaskTree.Text.Encoding

/-!
# Faults

A fault is a refusal that callers are meant to handle: each has a kind, which
travels between client and server, and a message.  A mishap is a refusal that
belongs to no kind; it ends the run of whoever does not expect it.  Both are
told by their cause, and the wording of each cause is in one place.
-/

namespace TaskTree

/-- The kinds of faults. -/
inductive FaultKind where
  | notFound
  | alreadyExists
  | invalidOperation
  | locked
  | io
  | parse
  | transport
  /-- A fault that another program reports under a kind that is not known here. -/
  | general
  deriving DecidableEq, Repr

namespace FaultKind

/-- The word for a kind on the wire. -/
def word : FaultKind → String
  | notFound => "not_found"
  | alreadyExists => "already_exists"
  | invalidOperation => "invalid_operation"
  | locked => "locked"
  | io => "io"
  | parse => "parse"
  | transport => "transport"
  | general => "error"

/-- The kinds that have a word of their own. -/
def specific : List FaultKind :=
  [notFound, alreadyExists, invalidOperation, locked, io, parse, transport]

/-- The kind that a word on the wire means. -/
def ofWord (w : String) : FaultKind :=
  (specific.find? fun kind => kind.word = w).getD general

/-- A word is read as the kind that it was written for. -/
theorem ofWord_word : ∀ kind : FaultKind, ofWord kind.word = kind := by
  intro kind
  cases kind <;> decide

end FaultKind

/-- What is wrong with the fields that are given for a command. -/
inductive PayloadDefect where
  | unexpected (name : String)
  | reservedTwice
  | missing (names : List String)
  deriving DecidableEq, Repr

/-- The reasons why an operation is refused. -/
inductive Fault where
  | emptyRoot
  | rootExists (root : String)
  | rootMissing (root : String)
  | emptyPath
  | emptySegment
  | dottedSegment (segment : String)
  | reservedSegment (segment : String)
  | belowItem (segment : String)
  | placeMissing (place : String)
  | insertIntoItem
  | sourceMissing
  | destinationMissing
  | destinationIsItem
  | moveIntoItself
  | nameTaken (name : String)
  | notAnItem (place : String)
  | foundNotAnItem (place : String)
  | renameInsideItem
  | nodeMissing
  | nothingAt (place : String)
  | snapshotLocked
  | cannotLock (file : Location) (cause : Disk.Refusal)
  | cannotRead (file : Location) (cause : Disk.Refusal)
  | cannotWrite (file : Location) (cause : Disk.Refusal)
  | cannotRemove (file : Location) (cause : Disk.Refusal)
  | snapshotNotJson (defect : Json.Defect) (text rest : List Char)
  | snapshotTooDeep
  | graphTooDeep
  | graphNotObject
  | nodeNotObject (value : Json)
  | itemFieldMissing (name : String)
  | unknownState (value : Json)
  | itemFieldsNotText
  | unknownNodeKind (value : Json)
  | unknownCommand (value : Json)
  | badPayload (command : String) (defect : PayloadDefect)
  | unreachable (server reason : String)
  | unexpectedStatus (status : Int) (message : String)
  | rejected (detail : Json)
  | reported (kind : FaultKind) (message : String)
  deriving Repr

namespace Fault

/-- The kind of a fault. -/
def kind : Fault → FaultKind
  | rootMissing _ | placeMissing _ | sourceMissing | destinationMissing | nodeMissing
  | nothingAt _ => .notFound
  | rootExists _ | nameTaken _ => .alreadyExists
  | emptyRoot | emptyPath | emptySegment | dottedSegment _ | reservedSegment _ | belowItem _
  | insertIntoItem | destinationIsItem | moveIntoItself | notAnItem _ | foundNotAnItem _
  | renameInsideItem | rejected _ => .invalidOperation
  | snapshotLocked => .locked
  | cannotLock .. | cannotRead .. | cannotWrite .. | cannotRemove .. => .io
  | snapshotNotJson .. | snapshotTooDeep | graphTooDeep | graphNotObject | nodeNotObject _
  | itemFieldMissing _ | unknownState _ | itemFieldsNotText | unknownNodeKind _
  | unknownCommand _ | badPayload .. => .parse
  | unreachable .. | unexpectedStatus .. => .transport
  | reported kind _ => kind

end Fault

/-- Names in a sentence, each quoted: with "and" before the last, and commas from three on. -/
def quotedList : List String → String
  | [] => ""
  | [a] => Text.quoted a
  | [a, b] => Text.quoted a ++ " and " ++ Text.quoted b
  | names =>
    String.intercalate ", " (names.dropLast.map Text.quoted) ++ ", and " ++
      Text.quoted (names.getLast?.getD "")

/-- What is wrong with the fields of a command, in words. -/
def PayloadDefect.message : PayloadDefect → String
  | unexpected name => s!"got an unexpected keyword argument '{name}'"
  | reservedTwice => "got multiple values for argument 'self'"
  | missing [name] => s!"missing 1 required positional argument: {Text.quoted name}"
  | missing names =>
    s!"missing {names.length} required positional arguments: {quotedList names}"

/-- The words of a fault. -/
def Fault.message : Fault → String
  | .emptyRoot => "root cannot be empty"
  | .rootExists root => s!"root {Text.quoted root} already exists"
  | .rootMissing root => s!"root {Text.quoted root} was not found"
  | .emptyPath => "path cannot be empty, must contain at least one item"
  | .emptySegment => "path cannot contain empty segments"
  | .dottedSegment segment => s!"path segment {Text.quoted segment} cannot contain `.`"
  | .reservedSegment segment => s!"path segment {Text.quoted segment} is reserved"
  | .belowItem segment => s!"path: {segment} is below an item"
  | .placeMissing place => s!"path: {place} section was not found"
  | .insertIntoItem => "cannot insert an item into an item"
  | .sourceMissing => "failed to find source path"
  | .destinationMissing => "failed to find destination"
  | .destinationIsItem =>
    "failed to insert src at item, item doesn't support arbitrary items"
  | .moveIntoItself => "cannot move a node into itself"
  | .nameTaken name => s!"key was already found, aborting: {name}"
  | .notAnItem place => s!"{place} is not an item"
  | .foundNotAnItem place => s!"path: {place} found is not an item"
  | .renameInsideItem => "cannot rename when item is placed in an item"
  | .nodeMissing => "item was not found"
  | .nothingAt place => s!"nothing found at {place}"
  | .snapshotLocked => "lock file exists and is valid. Aborting"
  | .cannotLock file cause => s!"failed to acquire {file.text}: {cause.message}"
  | .cannotRead file cause => s!"failed to read {file.text}: {cause.message}"
  | .cannotWrite file cause => s!"failed to write {file.text}: {cause.message}"
  | .cannotRemove file cause => s!"failed to remove {file.text}: {cause.message}"
  | .snapshotNotJson defect text rest =>
    s!"snapshot is not valid JSON: {defect.describe text rest}"
  | .snapshotTooDeep => "snapshot is nested too deeply"
  | .graphTooDeep => "graph is nested too deeply"
  | .graphNotObject => "graph must be a JSON object"
  | .nodeNotObject value => s!"expected a JSON object, got {value.typeWord}"
  | .itemFieldMissing name => s!"item is missing field {Text.quoted name}"
  | .unknownState value => s!"unknown item state {value.literal}"
  | .itemFieldsNotText => "item title and description must be strings"
  | .unknownNodeKind value => s!"unknown graph item type {value.literal}"
  | .unknownCommand value => s!"unknown command {value.literal}"
  | .badPayload command defect =>
    s!"invalid {command} payload: {command}.__init__() {defect.message}"
  | .unreachable server reason => s!"failed to reach {server}: {reason}"
  | .unexpectedStatus status message => s!"server returned HTTP {status}: {message}"
  | .rejected detail => s!"request rejected by server: {detail.inline}"
  | .reported _ message => message

/-- The rules of the tables of roots and nodes. -/
inductive Constraint where
  | uniquePath
  | knownKind
  | knownRoot
  | hasPath
  deriving DecidableEq, Repr

/-- The words for a broken rule. -/
def Constraint.message : Constraint → String
  | .uniquePath => "UNIQUE constraint failed: nodes.root_id, nodes.path"
  | .knownKind => "CHECK constraint failed: item_type IN ('SECTION', 'ITEM')"
  | .knownRoot => "FOREIGN KEY constraint failed"
  | .hasPath => "NOT NULL constraint failed: nodes.path"

/-- Refusals that belong to no kind. -/
inductive Mishap where
  | undecodable (fault : Encoding.Fault)
  | longInteger (digits : Nat)
  | notJson (defect : Json.Defect) (text rest : List Char)
  | textTooDeep (nesting : Json.Nesting)
  | nodeTooDeep
  | noMember (value : Json) (name : String)
  | notHashable (value : Json)
  | notListable (value : Json)
  | invalidState (value : Json)
  | unknownStore (name : String)
  | fixedField (name : String)
  | givenTwice (name : String)
  | broken (rule : Constraint)
  | noHome
  | notReal (text : String)
  | notWhole (text : String)
  | noEvent
  | negativeWait
  | waitTooLong
  | notComparable (value : Json)
  | beyondReals
  | badAddress (defect : Address.Defect)
  | badOnward (defect : Address.Defect)
  | notFinite
  | refused (cause : Disk.Refusal)
  | notTables
  | tablesUnreachable
  | tablesBlocked
  | tablesReadOnly
  | badLabel (defect : Label.Defect)
  | notAscii (text : String)
  | untyped (address : String)
  | badBrackets (defect : Brackets.Defect)
  | unknownScheme (scheme : String)
  | nullInName
  | tooManyFolders
  | badVariable
  | namelessVariable
  | notStorable (position : Nat) (value : Json)
  | numberTooLarge
  deriving Repr

/-- The bytes that a decoding fault is about. -/
def undecodableBytes (fault : Encoding.Fault) : String :=
  if fault.count = 1 then
    s!"byte 0x{String.ofList (Text.hexDigits 2 fault.byte.toNat)} in position {fault.offset}"
  else s!"bytes in position {fault.offset}-{fault.offset + fault.count - 1}"

/-- The characters that are not of ASCII, as far as the first of them go on. -/
def outsideAscii (text : String) : String :=
  let front := text.toList.takeWhile Text.isAscii
  let run := (text.toList.drop front.length).takeWhile fun c => !Text.isAscii c
  match run with
  | [c] =>
    s!"character '{String.ofList (Text.escapeByNumber c.toNat)}' in position {front.length}"
  | _ => s!"characters in position {front.length}-{front.length + run.length - 1}"

/-- A quoted text, or the first 200 characters of it. -/
def quotedStart (text : String) : String :=
  String.ofList ((Text.quoted text).toList.take 200)

/-- The words of a mishap. -/
def Mishap.message : Mishap → String
  | .undecodable fault =>
    s!"'{fault.encoding.name}' codec can't decode {undecodableBytes fault}: " ++
      fault.defect.message
  | .longInteger digits =>
    s!"Exceeds the limit ({Numeral.maxDigits} digits) for integer string conversion: " ++
      s!"value has {digits} digits; use sys.set_int_max_str_digits() to increase the limit"
  | .notJson defect text rest => defect.describe text rest
  | .textTooDeep nesting =>
    s!"maximum recursion depth exceeded while decoding a JSON {nesting.word} " ++
      "from a unicode string"
  | .nodeTooDeep => "maximum recursion depth exceeded while calling a Python object"
  | .noMember value name => s!"'{value.typeWord}' object has no attribute '{name}'"
  | .notHashable value => s!"unhashable type: '{value.typeWord}'"
  | .notListable value => s!"'{value.typeWord}' object is not iterable"
  | .invalidState value => s!"{value.literal} is not a valid ItemState"
  | .unknownStore name =>
    s!"unknown store {Text.quoted name}, expected 'file' or 'sqlite'"
  | .fixedField name => s!"Cannot update field {Text.quoted name}"
  | .givenTwice name => s!"update_node() got multiple values for argument {Text.quoted name}"
  | .broken rule => rule.message
  | .noHome => "failed to retrieve the users data dir"
  | .notReal text => s!"could not convert string to float: {Text.quoted text}"
  | .notWhole text => s!"invalid literal for int() with base 10: {quotedStart text}"
  | .noEvent => ""
  | .negativeWait => "'timeout' must be a non-negative number"
  | .waitTooLong => "timestamp too large to convert to C _PyTime_t"
  | .notComparable value =>
    s!"'<' not supported between instances of '{value.typeWord}' and 'int'"
  | .beyondReals => "int too large to convert to float"
  | .badAddress defect => defect.message
  | .badOnward defect => s!"Invalid URL in location header: {defect.message}."
  | .notFinite => "Out of range float values are not JSON compliant"
  | .refused cause => cause.message
  | .notTables => "file is not a database"
  | .tablesUnreachable => "unable to open database file"
  | .tablesBlocked => "disk I/O error"
  | .tablesReadOnly => "attempt to write a readonly database"
  | .badLabel defect => defect.message
  | .notAscii text => s!"'ascii' codec can't encode {outsideAscii text}: ordinal not in range(128)"
  | .untyped address => s!"unknown url type: {Text.quoted address}"
  | .badBrackets defect => defect.message
  | .unknownScheme scheme => Text.quoted scheme
  | .nullInName => "embedded null byte"
  | .tooManyFolders => "maximum recursion depth exceeded while calling a Python object"
  | .badVariable => "illegal environment variable name"
  | .namelessVariable => "[Errno 22] Invalid argument"
  | .notStorable position value =>
    s!"Error binding parameter {position}: type '{value.typeWord}' is not supported"
  | .numberTooLarge => "Python int too large to convert to SQLite INTEGER"

/-- A refusal of either sort. -/
inductive Failure where
  | fault (f : Fault)
  | mishap (m : Mishap)
  deriving Repr

/-- The words of a refusal. -/
def Failure.message : Failure → String
  | .fault f => f.message
  | .mishap m => m.message

/-- A result that can only be a fault, where a mishap could be. -/
def liftFault {α : Type} : Except Fault α → Except Failure α
  | .ok a => .ok a
  | .error f => .error (.fault f)

/-- Why a text that should be JSON cannot be read, as a mishap. -/
def Mishap.ofRefusal (text : List Char) : Json.Refusal → Mishap
  | .malformed defect rest => .notJson defect text rest
  | .longInteger digits => .longInteger digits
  | .deep nesting => .textTooDeep nesting

/-- Why a received text has no value, as a mishap. -/
def Mishap.ofUnread : Json.Unread → Mishap
  | .undecodable fault => .undecodable fault
  | .refused text refusal => .ofRefusal text refusal

end TaskTree
