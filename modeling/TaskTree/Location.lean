import TaskTree.Text.Split

/-!
# Locations of files

A location is a place in the file system, told by names from an anchor on: the
place where a program runs, or the root.  Two slashes in front are an anchor of
their own, three or more are one.  Reading drops empty names and `.`; it keeps
`..`, since a link may stand before it.
-/

namespace TaskTree

/-- Where the names of a location start. -/
inductive Location.Anchor where
  | here
  | root
  | doubleRoot
  deriving DecidableEq, Repr

/-- A place in the file system. -/
structure Location where
  anchor : Location.Anchor
  names : List String
  deriving DecidableEq, Repr

namespace Location

/-- The anchor that the slashes in front of a text mean. -/
def anchorOf : List Char → Anchor
  | '/' :: '/' :: '/' :: _ => .root
  | '/' :: '/' :: _ => .doubleRoot
  | '/' :: _ => .root
  | _ => .here

/-- The location that a text writes. -/
def parse (text : String) : Location where
  anchor := anchorOf text.toList
  names := ((Text.split '/' text.toList).map String.ofList).filter fun name =>
    name ≠ "" ∧ name ≠ "."

/-- The slashes of an anchor. -/
def Anchor.text : Anchor → String
  | .here => ""
  | .root => "/"
  | .doubleRoot => "//"

/-- The text of a location. -/
def text (loc : Location) : String :=
  if loc.anchor = .here ∧ loc.names = [] then "."
  else loc.anchor.text ++ String.ofList (Text.join '/' (loc.names.map String.toList))

/-- The location of a name in a folder. -/
def child (loc : Location) (name : String) : Location :=
  { loc with names := loc.names ++ [name] }

/-- The location beside this one whose last name has a suffix. -/
def withSuffix (loc : Location) (suffix : String) : Location :=
  { loc with names := loc.names.dropLast ++ [(loc.names.getLast?.getD "") ++ suffix] }

/-- The folder of a location; an anchor is its own folder. -/
def parent (loc : Location) : Location :=
  { loc with names := loc.names.dropLast }

/-- A location that a text gives, seen from `loc`. -/
def resolve (loc : Location) (text : String) : Location :=
  let other := parse text
  if other.anchor = .here then { loc with names := loc.names ++ other.names } else other

/-- The location does not depend on where a program runs. -/
def isAbsolute (loc : Location) : Bool :=
  loc.anchor ≠ .here

/-- A name holds the character that ends texts in the system. -/
def hasNull (loc : Location) : Bool :=
  loc.names.any fun name => name.toList.contains '\x00'

/-- `other` is `loc` or lies below it. -/
def covers (loc other : Location) : Bool :=
  loc.anchor = other.anchor && loc.names.isPrefixOf other.names

/-- The folders on the way to a location, the outermost first. -/
def folders (loc : Location) : List Location :=
  (List.range loc.names.length).map fun n => { loc with names := loc.names.take n }

end Location

end TaskTree
