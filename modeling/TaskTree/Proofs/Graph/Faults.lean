import TaskTree.Proofs.Graph.Places

/-!
# What operations are refused with

Whether a graph refuses an operation, and with which fault to the last word of its message, can be
told from what is seen below the root.  A node that should be created meets the first fault on the
way down its path (`obstacle?`); for the other operations it is enough to look at the end of the
path and at the place above it.
-/

namespace TaskTree

/-- The fault of a refused result. -/
def faultOf {α : Type} : Except Fault α → Option Fault
  | .error fault => some fault
  | .ok _ => none

@[simp] theorem faultOf_error {α : Type} (fault : Fault) :
    faultOf (.error fault : Except Fault α) = some fault := rfl

@[simp] theorem faultOf_ok {α : Type} (a : α) : faultOf (.ok a) = none := rfl

namespace Node.View

/-- The first fault on the way down a path below which a node should stand: an item in the way, or
a name that is missing. -/
def obstacle? (view : View) : Path → Option Fault
  | [] =>
    match view [] with
    | some (.leaf _) => some .insertIntoItem
    | _ => none
  | segment :: rest =>
    match view [] with
    | some (.leaf _) => some (.belowItem segment)
    | _ =>
      match view [segment] with
      | none => some (.placeMissing segment)
      | some _ => obstacle? (fun q => view (segment :: q)) rest

/-- The fault of putting a node at a path. -/
def creationFault? (view : View) (root : String) (path : Path) : Option Fault :=
  if path = [] then some .emptyPath
  else
    match Path.check path with
    | .error fault => some fault
    | .ok () =>
      match view [] with
      | none => some (.rootMissing root)
      | some _ => view.obstacle? path.dropLast

/-- The fault of putting the item at a path in its other state. -/
def toggleFault? (view : View) (root : String) (path : Path) : Option Fault :=
  match view path with
  | some (.branch _) => some (.notAnItem (Path.place root path))
  | _ => none

/-- The fault of replacing the item at a path. -/
def updateFault? (view : View) (root : String) (path : Path) (title : String) : Option Fault :=
  if path = [] then none
  else
    match view path.dropLast with
    | none => none
    | some (.leaf _) => some .renameInsideItem
    | some (.branch _) =>
      match view path with
      | none => none
      | some (.branch _) => some (.foundNotAnItem (Path.place root path))
      | some (.leaf _) => faultOf (Path.checkSegment (Path.nameOfTitle title))

/-- The fault of adding a root. -/
def rootFault? (view : View) (root : String) : Option Fault :=
  if root = "" then some .emptyRoot
  else if (view []).isSome then some (.rootExists root)
  else none

/-- The fault of removing the node at a path. -/
def removalFault? (view : View) (path : Path) : Option Fault :=
  if path ≠ [] ∧ (view path).isSome then none else some .nodeMissing

end Node.View

namespace Node

/-- A node is refused to be put below a path for the first fault on the way down. -/
theorem faultOf_insert (new : Node) (name : String) (node : Node) (path : Path) :
    faultOf (insert new name node path) = node.view.obstacle? path := by
  induction path generalizing node with
  | nil =>
    cases node with
    | leaf item => rfl
    | branch kind children => rfl
  | cons segment rest ih =>
    cases node with
    | leaf item => rfl
    | branch kind children =>
      have hbelow : ∀ q, (Node.branch kind children).view (segment :: q) =
          (Named.find? segment children).bind (·.view q) :=
        view_branch_cons kind children segment
      rw [View.obstacle?, funext hbelow, hbelow, view_nil]
      cases hfound : Named.find? segment children with
      | none => simp [insert, hfound, face]
      | some child =>
        have hchild := ih child
        cases hdone : insert new name child rest with
        | error fault =>
          rw [hdone] at hchild
          simpa [insert, hfound, hdone, face] using hchild
        | ok child' =>
          rw [hdone] at hchild
          simpa [insert, hfound, hdone, face] using hchild

end Node

namespace Graph

/-- Creating a root has the fault that the view tells. -/
theorem fault?_createRoot (graph : Graph) (root : String) :
    (Change.ofExcept graph (graph.createRoot root)).fault? =
      (graph.view root).rootFault? root := by
  unfold createRoot Node.View.rootFault?
  rw [isSome_view_root]
  split
  · rfl
  · split <;> rfl

/-- A change has the fault of its result. -/
theorem fault?_ofExcept (graph : Graph) (result : Except Fault Graph) :
    (Change.ofExcept graph result).fault? = faultOf result := by
  cases result <;> rfl

/-- Creating a node has the fault that the view tells. -/
theorem faultOf_create (graph : Graph) (root : String) (path : Path) (node : Node) :
    faultOf (graph.create root path node) = (graph.view root).creationFault? root path := by
  unfold Node.View.creationFault?
  by_cases hne : path = []
  · rw [if_pos hne, hne]
    rfl
  · obtain ⟨above, name, rfl⟩ := Path.exists_above hne
    rw [if_neg hne, create, List.getLast?_concat, List.dropLast_concat]
    cases hcheck : Path.check (above ++ [name]) with
    | error fault => rfl
    | ok u =>
      cases hfound : Named.find? root graph with
      | none =>
        rw [view_of_find?_none hfound]
        rfl
      | some top =>
        rw [view_of_find? hfound, Node.view_nil]
        have htop := Node.faultOf_insert node name top above
        cases hdone : Node.insert node name top above with
        | error fault =>
          rw [hdone] at htop
          simpa [hdone] using htop
        | ok top' =>
          rw [hdone] at htop
          simpa [hdone] using htop

/-- What is altered at a path is refused for what the change of the node there is. -/
theorem fault_alter (graph : Graph) (root : String) (path : Path)
    (change : Node → Except Fault Node) :
    (Change.ofExcept graph (graph.alter root path change)).fault? =
      match (graph.get? root path).map change with
      | some (.error fault) => some fault
      | _ => none := by
  cases h : graph.get? root path with
  | none =>
    rw [alter_of_get?_none h]
    rfl
  | some sub =>
    rw [Option.map_some]
    cases hc : change sub with
    | error fault =>
      rw [alter_refused h hc]
      rfl
    | ok sub' =>
      obtain ⟨graph', hok, -⟩ := alter_of_get? h hc
      rw [hok]
      rfl

/-- Toggling has the fault that the view tells. -/
theorem fault?_toggleItem (graph : Graph) (root : String) (path : Path) :
    (Change.ofExcept graph (graph.toggleItem root path)).fault? =
      (graph.view root).toggleFault? root path := by
  unfold toggleItem Node.View.toggleFault?
  rw [fault_alter]
  cases h : graph.get? root path with
  | none =>
    rw [view_eq_none_iff.2 h]
    rfl
  | some sub =>
    rw [face_of_get? h]
    cases sub <;> rfl

/-- Updating has the fault that the view tells. -/
theorem fault?_updateItem (graph : Graph) (root : String) (path : Path) (item : Item) :
    (Change.ofExcept graph (graph.updateItem root path (.leaf item))).fault? =
      (graph.view root).updateFault? root path item.title := by
  unfold updateItem Node.View.updateFault?
  by_cases hne : path = []
  · subst hne
    rfl
  · obtain ⟨above, name, rfl⟩ := Path.exists_above hne
    rw [if_neg hne, List.getLast?_concat, List.dropLast_concat]
    simp only
    rw [fault_alter]
    cases h : graph.get? root above with
    | none =>
      rw [view_eq_none_iff.2 h]
      rfl
    | some parent =>
      rw [face_of_get? h, Option.map_some]
      cases parent with
      | leaf item' => rfl
      | branch kind children =>
        have hchild := get?_child h name
        rw [view, hchild]
        cases hfound : Named.find? name children with
        | none => simp [Node.renameItem, hfound, Node.face]
        | some child =>
          cases child with
          | branch kind' children' => simp [Node.renameItem, hfound, Node.face]
          | leaf item' =>
            cases hcheck : Path.checkSegment (Path.nameOfTitle item.title) with
            | error fault => simp [Node.renameItem, hfound, hcheck, Node.face]
            | ok u => simp [Node.renameItem, hfound, hcheck, Node.face]

/-- Deleting has the fault that the view tells. -/
theorem fault?_delete (graph : Graph) (root : String) (path : Path) :
    (Change.ofExcept graph (graph.delete root path)).fault? =
      (graph.view root).removalFault? path := by
  unfold delete Node.View.removalFault?
  by_cases hne : path = []
  · rw [hne, take?_nil, if_neg (by simp)]
    rfl
  · cases h : graph.get? root path with
    | none =>
      rw [take?_of_get?_none h, if_neg (by simp [view_eq_none_iff.2 h])]
      rfl
    | some sub =>
      obtain ⟨rest, htake, -⟩ := take?_of_get? hne h
      rw [htake, if_pos ⟨hne, by simp [face_of_get? h]⟩]
      rfl

end Graph

end TaskTree
