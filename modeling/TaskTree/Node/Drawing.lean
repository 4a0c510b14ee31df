import TaskTree.Node.Basic

/-!
# Drawing nodes

A node is drawn as lines: its label, and below it the drawings of the nodes
under it, in the order of their names, with strokes that join siblings.  Each
level of depth takes four characters.
-/

namespace TaskTree.Node

/-- The label of a node: its name, or for an item a box and its title. -/
def label (name : String) : Node → String
  | .branch .. => name
  | .leaf item => (if item.state = .done then "[x] " else "[ ] ") ++ item.title

/-- The strokes before the label of a node. -/
def connector (last : Bool) : String :=
  if last then "└── " else "├── "

/-- The strokes before the lines below a node. -/
def continuation (last : Bool) : String :=
  if last then "    " else "│   "

/-- Join the drawings of siblings, which are lines without their first strokes. -/
def joinSiblings : List (List String) → List String
  | [] => []
  | [lines] => strokes true lines
  | lines :: next :: rest => strokes false lines ++ joinSiblings (next :: rest)
where
  /-- The lines of one sibling with the strokes in front of them. -/
  strokes (last : Bool) : List String → List String
    | [] => []
    | first :: below => (connector last ++ first) :: below.map (continuation last ++ ·)

mutual

/-- The lines of the drawing of a node. -/
def drawLines (name : String) : Node → List String
  | .leaf item => [label name (.leaf item)]
  | .branch kind children =>
    label name (.branch kind children) ::
      joinSiblings ((Named.sorted (drawChildren children)).map Prod.snd)

/-- The drawings of named nodes, under their names. -/
def drawChildren : List (String × Node) → List (String × List String)
  | [] => []
  | (name, child) :: rest => (name, child.drawLines name) :: drawChildren rest

end

/-- The drawing of a node.  There is one however deep the node is nested: that whoever draws it by
calls, one in the other, gives up at about 990 levels is left out, since no node that is drawn comes
near them. -/
def draw (name : String) (node : Node) : String :=
  String.intercalate "\n" (node.drawLines name)

end TaskTree.Node
