import TaskTree.Node.Basic

/-!
# Graphs

A graph is a row of named roots, each the top of a tree of nodes.  An operation
is told a root and a path below it.  It either gives the graph after it or
refuses with a fault; a refused operation leaves the graph as it was, with one
exception.  A move takes its node away before it looks at the destination, so
a move that is refused because of the destination leaves the graph without the
node.  `Change` holds what an operation leaves behind in either case.
-/

namespace TaskTree

/-- Named roots, in the order in which they came. -/
abbrev Graph := List (String × Node)

namespace Graph

/-- The graph after an operation, and the fault of a refused one. -/
structure Change where
  graph : Graph
  fault? : Option Fault := none

/-- What an operation leaves behind that changes nothing when it is refused. -/
def Change.ofExcept (before : Graph) : Except Fault Graph → Change
  | .ok after => ⟨after, none⟩
  | .error fault => ⟨before, some fault⟩

/-- A graph without roots. -/
def empty : Graph := []

/-- The node at a path below a root. -/
def get? (graph : Graph) (root : String) (path : Path) : Option Node :=
  (Named.find? root graph).bind (·.get? path)

/-- The names of the roots in order; nothing if there is none. -/
def roots? (graph : Graph) : Option (List String) :=
  match (Named.names graph).mergeSort fun a b => decide (a ≤ b) with
  | [] => none
  | names => some names

/-- Add a root. -/
def createRoot (graph : Graph) (root : String) : Except Fault Graph :=
  if root = "" then .error .emptyRoot
  else if Named.has root graph then .error (.rootExists root)
  else .ok (Named.insert root .emptyUser graph)

/-- Put a node at a path, over a node that is there. -/
def create (graph : Graph) (root : String) (path : Path) (node : Node) : Except Fault Graph :=
  match path.getLast? with
  | none => .error .emptyPath
  | some name =>
    match Path.check path with
    | .error fault => .error fault
    | .ok () =>
      match Named.find? root graph with
      | none => .error (.rootMissing root)
      | some top =>
        match Node.insert node name top path.dropLast with
        | .error fault => .error fault
        | .ok top' => .ok (Named.insert root top' graph)

/-- The node at a path, and the graph without it. -/
def take? (graph : Graph) (root : String) (path : Path) : Option (Node × Graph) :=
  match Named.find? root graph with
  | none => none
  | some top => (top.detach? path).map fun found => (found.1, Named.insert root found.2 graph)

/-- Change the node at a path by `change`; nothing happens where no node is. -/
def alter (graph : Graph) (root : String) (path : Path)
    (change : Node → Except Fault Node) : Except Fault Graph :=
  match Named.find? root graph with
  | none => .ok graph
  | some top =>
    match top.alter change path with
    | .error fault => .error fault
    | .ok top' => .ok (Named.insert root top' graph)

/-- Remove the node at a path with all that is below it. -/
def delete (graph : Graph) (root : String) (path : Path) : Except Fault Graph :=
  match graph.take? root path with
  | none => .error .nodeMissing
  | some (_, rest) => .ok rest

/-- Bring a detached node under a destination. -/
def attach (graph : Graph) (root : String) (dest : Path) (name : String) (node : Node) :
    Except Fault Graph :=
  match graph.get? root dest with
  | none => .error .destinationMissing
  | some (.leaf _) => .error .destinationIsItem
  | some (.branch _ children) =>
    if Named.has name children then .error (.nameTaken name)
    else
      graph.alter root dest fun target =>
        match target with
        | .leaf _ => .error .destinationIsItem
        | .branch kind children => .ok (.branch kind (Named.insert name node children))

/-- Move the node at a path under a destination; it keeps its name. -/
def move (graph : Graph) (root : String) (src dest : Path) : Change :=
  match src.getLast?, graph.take? root src with
  | some name, some (node, rest) => .ofExcept rest (attach rest root dest name node)
  | _, _ => ⟨graph, some .sourceMissing⟩

/-- Put the item at a path in its other state. -/
def toggleItem (graph : Graph) (root : String) (path : Path) : Except Fault Graph :=
  graph.alter root path (Node.toggle (Path.place root path))

/-- Replace the item at a path, and keep it under the name of its new title. -/
def updateItem (graph : Graph) (root : String) (path : Path) (replacement : Node) :
    Except Fault Graph :=
  match path.getLast? with
  | none => .ok graph
  | some name =>
    graph.alter root path.dropLast
      (Node.renameItem (Path.place root path) name replacement)

end Graph

end TaskTree
