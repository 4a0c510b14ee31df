import TaskTree.Named
import TaskTree.Decimal.Shortest

/-!
# JSON values

Whole numbers and floating point numbers are different values, and the members
of an object keep their order.  `literal` is the form in which messages show a
value, and `typeWord` the word for what a value is.
-/

namespace TaskTree

/-- A JSON value. -/
inductive Json where
  | null
  | bool (b : Bool)
  | int (n : Int)
  | float (x : Binary64)
  | string (s : String)
  | array (elements : List Json)
  | object (members : List (String × Json))
  deriving Repr

namespace Json

instance : Inhabited Json := ⟨.null⟩

/-- The member of an object with this name; other values have none. -/
def member? (name : String) : Json → Option Json
  | .object members => Named.find? name members
  | _ => none

/-- An array of strings. -/
def ofStrings (texts : List String) : Json := .array (texts.map .string)

/-- The text of a string value. -/
def string? : Json → Option String
  | .string s => some s
  | _ => none

/-- The texts of an array of strings. -/
def strings? : Json → Option (List String)
  | .array elements => elements.mapM string?
  | _ => none

/-- A value that counts as nothing: null, false, zero, and all that is empty. -/
def isVoid : Json → Bool
  | .null => true
  | .bool b => !b
  | .int n => n == 0
  | .float x => x.isZero
  | .string s => s == ""
  | .array elements => elements.isEmpty
  | .object members => members.isEmpty

mutual

/-- All numbers in a value are finite, so that any reader of JSON knows them. -/
def isFinite : Json → Bool
  | .float x => x.isFinite
  | .array elements => allFinite elements
  | .object members => allMembersFinite members
  | _ => true

/-- All numbers in the elements of an array are finite. -/
def allFinite : List Json → Bool
  | [] => true
  | v :: rest => isFinite v && allFinite rest

/-- All numbers in the members of an object are finite. -/
def allMembersFinite : List (String × Json) → Bool
  | [] => true
  | (_, v) :: rest => isFinite v && allMembersFinite rest

end

end Json

end TaskTree
