import TaskTree.Json.Basic

/-!
# Problems with requests

A request is checked field by field before anything is done.  Every problem is
reported, with its place in the request and the value that is found there.
-/

namespace TaskTree

/-- What is wrong at a place of a request. -/
inductive Problem.Kind where
  | missing
  | notJson
  | notObject
  | notText
  | emptyText
  | notList
  | emptyPath
  | emptySegment
  | dottedSegment
  | notState
  deriving DecidableEq, Repr

namespace Problem.Kind

/-- The word for a kind of problem. -/
def word : Kind → String
  | missing => "missing"
  | notJson => "json_invalid"
  | notObject => "model_attributes_type"
  | notText => "string_type"
  | emptyText => "string_too_short"
  | notList => "list_type"
  | emptyPath | emptySegment | dottedSegment => "value_error"
  | notState => "enum"

/-- What is wrong, in words. -/
def message : Kind → String
  | missing => "Field required"
  | notJson => "JSON decode error"
  | notObject => "Input should be a valid dictionary or object to extract fields from"
  | notText => "Input should be a valid string"
  | emptyText => "String should have at least 1 character"
  | notList => "Input should be a valid list"
  | emptyPath => "Value error, path cannot be empty"
  | emptySegment => "Value error, path cannot contain empty paths"
  | dottedSegment => "Value error, path cannot contain `.`"
  | notState => "Input should be 'not-done' or 'done'"

end Problem.Kind

/-- A problem at a place, which is told by the names and numbers that lead there, with the
value that the problem is about. -/
structure Problem where
  kind : Problem.Kind
  place : List Json
  input : Json
  deriving Repr

namespace Problem

/-- A problem with the body as a whole. -/
def ofBody (kind : Kind) (input : Json) : Problem := ⟨kind, [.string "body"], input⟩

/-- A body that is no JSON from this place of its text on. -/
def ofText (offset : Nat) : Problem := ⟨.notJson, [.string "body", .int offset], .object []⟩

/-- A problem with a field of the body.  A field that is missing is a problem of the whole
body. -/
def ofField (kind : Kind) (field : String) (input : Json) : Problem :=
  ⟨kind, [.string "body", .string field], input⟩

/-- A problem with an element of a list in the body. -/
def ofElement (kind : Kind) (field : String) (index : Nat) (input : Json) : Problem :=
  ⟨kind, [.string "body", .string field, .int index], input⟩

/-- A problem with a parameter of the query. -/
def ofParam (kind : Kind) (name : String) (input : Json) : Problem :=
  ⟨kind, [.string "query", .string name], input⟩

/-- The object of a problem. -/
def toJson (problem : Problem) : Json :=
  .object [("type", .string problem.kind.word), ("loc", .array problem.place),
    ("msg", .string problem.kind.message), ("input", problem.input)]

end Problem

end TaskTree
