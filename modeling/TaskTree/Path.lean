import TaskTree.Text.Split

/-!
# Paths

A path is the list of names on the way from a root to a node; the empty path
is the root itself.  Its text joins the names with dots.  A text may have
empty names, which reading drops.
-/

namespace TaskTree

/-- The names on the way from a root to a node. -/
abbrev Path := List String

namespace Path

/-- The character between names. -/
def separator : Char := '.'

/-- The name that no node may have, because it tells the kind of a node in a snapshot. -/
def reserved : String := "type"

/-- All names of a text, empty ones included. -/
def splitText (text : String) : Path :=
  (Text.split separator text.toList).map String.ofList

/-- The path that a text writes. -/
def parse (text : String) : Path :=
  (splitText text).filter (· ≠ "")

/-- The text of a path. -/
def format (path : Path) : String :=
  String.ofList (Text.join separator (path.map String.toList))

/-- A path without its empty names. -/
def clean (path : Path) : Path :=
  path.filter (· ≠ "")

/-- The order of paths: names are compared one after another, and a path comes before
those that go on after it. -/
def precedes : Path → Path → Bool
  | [], _ => true
  | _ :: _, [] => false
  | a :: p, b :: q => if a = b then precedes p q else decide (a < b)

/-- The place of a node, as messages name it: root and path with a dot between them. -/
def place (root : String) (path : Path) : String :=
  root ++ "." ++ format path

/-- The name under which an item with this title is kept: dots and spaces become dashes. -/
def nameOfTitle (title : String) : String :=
  String.ofList (title.toList.map fun c => if c = separator ∨ c = ' ' then '-' else c)

end Path

end TaskTree
