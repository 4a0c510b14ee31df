import TaskTree.Tables.Content
import TaskTree.Graph.Basic

/-!
# Reading graphs from tables

A read builds the graph of a root from its rows, each row after those that it
lies below, and then follows the path.  A row whose parent has no row cannot
be put anywhere, so it makes every read of its root fail.
-/

namespace TaskTree.Tables

/-- Put the nodes of rows into a graph one after another. -/
def addRows (root : String) : List ReadRow → Graph → Except Failure Graph
  | [], graph => .ok graph
  | read :: rest, graph =>
    match read.node with
    | .error failure => .error failure
    | .ok node =>
      match graph.create root read.row.segments node with
      | .error fault => .error (.fault fault)
      | .ok graph => addRows root rest graph

/-- The graph of one root. -/
def graphOf (tables : Tables) (root : String) : Except Failure Graph :=
  match tables.list root with
  | .error mishap => .error (.mishap mishap)
  | .ok reads =>
    match Graph.empty.createRoot root with
    | .error fault => .error (.fault fault)
    | .ok graph => addRows root reads graph

/-- The node at a path below a root; empty names in the path do not matter. -/
def get (tables : Tables) (root : String) (path : Path) : Except Failure (Option Node) :=
  if tables.hasRoot root then
    (tables.graphOf root).map fun graph => graph.get? root (Path.clean path)
  else .ok none

/-- The names of the roots in order; nothing if there is none. -/
def roots? (tables : Tables) : Option (List String) :=
  match tables.rootNames with
  | [] => none
  | names => some names

end TaskTree.Tables
