import TaskTree.Segment
import TaskTree.Named

/-!
# Nodes

A node is an item, which is done or not, or a branch with named nodes below
it.  Branches are users and sections, which differ in nothing but that kind.
The view of a node is `get?`, which follows a path downwards; the operations
change a node at the end of a path.
-/

namespace TaskTree

/-- Whether the work of an item is done. -/
inductive TaskState where
  | notDone
  | done
  deriving DecidableEq, Repr, Inhabited

namespace TaskState

/-- The word for a state. -/
def word : TaskState → String
  | notDone => "not-done"
  | done => "done"

/-- The state that a word means. -/
def ofWord? (w : String) : Option TaskState :=
  if w = "not-done" then some notDone else if w = "done" then some done else none

/-- The other state. -/
def toggled : TaskState → TaskState
  | notDone => done
  | done => notDone

/-- A word is read as the state that it was written for. -/
@[simp] theorem ofWord?_word (s : TaskState) : ofWord? s.word = some s := by
  cases s <;> decide

/-- Two toggles are none. -/
@[simp] theorem toggled_toggled (s : TaskState) : s.toggled.toggled = s := by
  cases s <;> rfl

end TaskState

/-- The content of an item. -/
structure Item where
  title : String
  description : String := ""
  state : TaskState := .notDone
  deriving DecidableEq, Repr

/-- The kinds of nodes that can have nodes below them. -/
inductive BranchKind where
  | user
  | group
  deriving DecidableEq, Repr

namespace BranchKind

/-- The word for a kind of branch. -/
def word : BranchKind → String
  | user => "user"
  | group => "section"

/-- The kind of branch that a word means. -/
def ofWord? (w : String) : Option BranchKind :=
  if w = "user" then some user else if w = "section" then some group else none

/-- A word is read as the kind of branch that it was written for. -/
@[simp] theorem ofWord?_word (k : BranchKind) : ofWord? k.word = some k := by
  cases k <;> decide

end BranchKind

/-- A node of a graph. -/
inductive Node where
  | branch (kind : BranchKind) (children : List (String × Node))
  | leaf (item : Item)
  deriving Repr

namespace Node

instance : Inhabited Node := ⟨.leaf ⟨"", "", .notDone⟩⟩

/-- A section without nodes below it. -/
def emptySection : Node := .branch .group []

/-- A user without nodes below it. -/
def emptyUser : Node := .branch .user []

/-- The item of a leaf. -/
def item? : Node → Option Item
  | .leaf item => some item
  | .branch .. => none

/-- The nodes below a branch; a leaf has none. -/
def children : Node → Named Node
  | .branch _ children => children
  | .leaf _ => []

/-- The node at the end of a path. -/
def get? : Node → Path → Option Node
  | node, [] => some node
  | .leaf _, _ :: _ => none
  | .branch _ children, segment :: rest =>
    match Named.find? segment children with
    | none => none
    | some child => child.get? rest

mutual

/-- The number of names on the longest way down a node. -/
def depth : Node → Nat
  | .leaf _ => 0
  | .branch _ children => depthBelow children

/-- The number of names on the longest way down a row of nodes. -/
def depthBelow : List (String × Node) → Nat
  | [] => 0
  | (_, child) :: rest => max (child.depth + 1) (depthBelow rest)

end

/-- The deepest nesting of nodes that can be copied.  This is what is left to a caller that is
itself called directly; every six calls on the way there take one level from it. -/
def copyDepth : Nat := 164

/-- A copy of a node.  One that is nested too deeply cannot be copied. -/
def copy (node : Node) : Except Mishap Node :=
  if node.depth ≤ copyDepth then .ok node else .error .nodeTooDeep

/-- A node that is not nested too deeply is copied as it is. -/
theorem copy_of_depth_le {node : Node} (h : node.depth ≤ copyDepth) : node.copy = .ok node :=
  if_pos h

/-- A node that is nested too deeply is not copied. -/
theorem copy_of_lt_depth {node : Node} (h : copyDepth < node.depth) :
    node.copy = .error .nodeTooDeep :=
  if_neg (Nat.not_le_of_lt h)

/-- Put `new` under `name` at the end of a path of branches. -/
def insert (new : Node) (name : String) : Node → Path → Except Fault Node
  | .leaf _, [] => .error .insertIntoItem
  | .leaf _, segment :: _ => .error (.belowItem segment)
  | .branch kind children, [] => .ok (.branch kind (Named.insert name new children))
  | .branch kind children, segment :: rest =>
    match Named.find? segment children with
    | none => .error (.placeMissing segment)
    | some child =>
      match insert new name child rest with
      | .error fault => .error fault
      | .ok child' => .ok (.branch kind (Named.insert segment child' children))

/-- The node at the end of a path that is not empty, and what is left without it. -/
def detach? : Node → Path → Option (Node × Node)
  | _, [] => none
  | .leaf _, _ :: _ => none
  | .branch kind children, [name] =>
    (Named.find? name children).map (·, .branch kind (Named.erase name children))
  | .branch kind children, segment :: rest =>
    match Named.find? segment children with
    | none => none
    | some child =>
      (child.detach? rest).map fun found =>
        (found.1, .branch kind (Named.insert segment found.2 children))

/-- Change the node at the end of a path by `change`; nothing happens where no node is. -/
def alter (change : Node → Except Fault Node) : Node → Path → Except Fault Node
  | node, [] => change node
  | .leaf item, _ :: _ => .ok (.leaf item)
  | .branch kind children, segment :: rest =>
    match Named.find? segment children with
    | none => .ok (.branch kind children)
    | some child =>
      match child.alter change rest with
      | .error fault => .error fault
      | .ok child' => .ok (.branch kind (Named.insert segment child' children))

/-- Replace the item under `name` in a branch by `item`, under the name of its title. -/
def renameItem (place name : String) (replacement : Node) : Node → Except Fault Node
  | .leaf _ => .error .renameInsideItem
  | .branch kind children =>
    match Named.find? name children with
    | none => .ok (.branch kind children)
    | some (.branch ..) => .error (.foundNotAnItem place)
    | some (.leaf _) =>
      match replacement with
      | .branch .. => .error (.foundNotAnItem place)
      | .leaf item =>
        let newName := Path.nameOfTitle item.title
        match Path.checkSegment newName with
        | .error fault => .error fault
        | .ok () =>
          .ok (.branch kind (Named.insert newName (.leaf item) (Named.erase name children)))

/-- The item of a leaf in its other state. -/
def toggle (place : String) : Node → Except Fault Node
  | .branch .. => .error (.notAnItem place)
  | .leaf item => .ok (.leaf { item with state := item.state.toggled })

/-- A path leads through itself to the node at its end. -/
theorem get?_append (node : Node) (p q : Path) :
    node.get? (p ++ q) = (node.get? p).bind (·.get? q) := by
  induction p generalizing node with
  | nil => cases node <;> simp [get?]
  | cons segment rest ih =>
    cases node with
    | leaf item => simp [get?]
    | branch kind children =>
      cases h : Named.find? segment children with
      | none => simp [get?, h]
      | some child => simp [get?, h, ih]

end Node

end TaskTree
