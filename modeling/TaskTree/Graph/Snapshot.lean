import TaskTree.Graph.Basic
import TaskTree.Node.Json
import TaskTree.Json.Printer

/-!
# Snapshots

A snapshot is the text of a graph: an object with the roots in the order of
their names, over several lines.  Equal graphs have equal snapshots, whatever
the order in which their names came.
-/

namespace TaskTree.Graph

/-- The object of a graph. -/
def toJson (graph : Graph) : Json :=
  .object (Named.sorted (Node.childrenJson graph))

/-- The snapshot of a graph, however deep it is nested. -/
def snapshot (graph : Graph) : String :=
  graph.toJson.pretty

/-- The roots that the members of an object describe. -/
def rootsOfJson : List (String × Json) → Except Fault Graph
  | [] => .ok []
  | (name, v) :: rest =>
    match Node.ofJson v with
    | .error fault => .error fault
    | .ok node =>
      match rootsOfJson rest with
      | .error fault => .error fault
      | .ok graph => .ok ((name, node) :: graph)

/-- The graph that a value describes. -/
def ofJson : Json → Except Fault Graph
  | .object members => rootsOfJson members
  | _ => .error .graphNotObject

/-- The graph of a snapshot. -/
def ofChars (text : List Char) : Except Failure Graph :=
  match Json.read Json.textDepth text with
  | .ok v => liftFault (ofJson v)
  | .error (.malformed defect rest) => .error (.fault (.snapshotNotJson defect text rest))
  | .error (.longInteger digits) => .error (.mishap (.longInteger digits))
  | .error (.deep _) => .error (.fault .snapshotTooDeep)

/-- The graph of a snapshot. -/
def ofSnapshot (text : String) : Except Failure Graph :=
  ofChars text.toList

end TaskTree.Graph
