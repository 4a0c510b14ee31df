import TaskTree.Proofs.Graph.Relocation

/-!
# Operations below a root

All operations on a graph act on the tree below one root.  Whether one is refused, with which fault
to the last word of its message, and what is seen after it, both follow from what is seen of that
tree: `perform_eq` says so with `Operation.fault?` and `Operation.after`, and knows no order of
names.  In contrast to commands, operations create nodes with nodes below them, and a move that
loses its node is among them.
-/

namespace TaskTree

/-- An operation on the tree below a root. -/
inductive Operation where
  | createRoot
  | create (path : Path) (node : Node)
  | move (src dest : Path)
  | toggleItem (path : Path)
  | updateItem (path : Path) (item : Item)
  | delete (path : Path)
  /-- A graph keeps no archive, so an archived node is removed. -/
  | archive (path : Path)

/-- Do an operation below a root. -/
def Graph.perform (graph : Graph) (root : String) : Operation → Graph.Change
  | .createRoot => .ofExcept graph (graph.createRoot root)
  | .create path node => .ofExcept graph (graph.create root path node)
  | .move src dest => graph.move root src dest
  | .toggleItem path => .ofExcept graph (graph.toggleItem root path)
  | .updateItem path item => .ofExcept graph (graph.updateItem root path (.leaf item))
  | .delete path | .archive path => .ofExcept graph (graph.delete root path)

namespace Node.View

/-- The fault of moving a node: the destination is looked for where the node is gone. -/
def moveFault? (view : View) (src dest : Path) : Option Fault :=
  if src = [] ∨ view src = none then some .sourceMissing
  else
    match view.prune src dest with
    | none => some .destinationMissing
    | some (.leaf _) => some .destinationIsItem
    | some (.branch _) =>
      if view.prune src (landing src dest) = none then none
      else src.getLast?.map .nameTaken

/-- What is seen when a node moves, or is lost on the way. -/
def displaced (view : View) (src dest : Path) : View :=
  if Movable view src dest then view.moved src dest else view.archived src

end Node.View

/-- The fault of an operation, told by what is seen below its root. -/
def Operation.fault? (root : String) (view : Node.View) : Operation → Option Fault
  | .createRoot => view.rootFault? root
  | .create path _ => view.creationFault? root path
  | .move src dest => view.moveFault? src dest
  | .toggleItem path => view.toggleFault? root path
  | .updateItem path item => view.updateFault? root path item.title
  | .delete path | .archive path => view.removalFault? path

/-- What is seen below its root after an operation. -/
def Operation.after (root : String) (view : Node.View) : Operation → Node.View
  | .createRoot => if root = "" ∨ (view []).isSome then view else Node.emptyUser.view
  | .create path node => view.created path node
  | .move src dest => view.displaced src dest
  | .toggleItem path => view.toggled path
  | .updateItem path item => view.updated path item
  | .delete path | .archive path => view.archived path

namespace Graph

variable {graph : Graph} {root : String} {path src dest : Path}

/-- What is found at the destination tells whether a node can be attached there. -/
theorem faultOf_attach (graph : Graph) (root : String) (dest : Path) (name : String) (node : Node) :
    faultOf (graph.attach root dest name node) =
      match graph.view root dest with
      | none => some .destinationMissing
      | some (.leaf _) => some .destinationIsItem
      | some (.branch _) =>
        if graph.view root (dest ++ [name]) = none then none else some (.nameTaken name) := by
  cases hseen : graph.view root dest with
  | none => rw [attach_nowhere (view_eq_none_iff.1 hseen), faultOf_error]
  | some face =>
    cases face with
    | leaf item => rw [attach_to_item (get?_of_item hseen), faultOf_error]
    | branch kind =>
      have hunder : (graph.view root).IsBranchAt dest := ⟨kind, hseen⟩
      by_cases hfree : graph.view root (dest ++ [name]) = none
      · obtain ⟨after, hok, -⟩ := replacedAt_attach hunder (view_eq_none_iff.1 hfree) node
        simp [hok, hfree]
      · simp [attach_taken hunder (mt view_eq_none_iff.2 hfree) node, hfree]

/-- Moving has the fault that the view tells. -/
theorem fault?_move (graph : Graph) (root : String) (src dest : Path) :
    (graph.move root src dest).fault? = (graph.view root).moveFault? src dest := by
  unfold Node.View.moveFault?
  by_cases hmissing : src = [] ∨ graph.view root src = none
  · rw [if_pos hmissing, move_of_take?_none (take?_of_missing (hmissing.imp_right view_eq_none_iff.1))]
  · rw [if_neg hmissing]
    rw [not_or, view_eq_none_iff] at hmissing
    obtain ⟨above, name, rfl⟩ := Path.exists_above hmissing.1
    obtain ⟨node, hget⟩ := Option.ne_none_iff_exists'.1 hmissing.2
    obtain ⟨rest, -, hrest, hmove⟩ := move_of_get? hget dest
    have hroot : rest.view root = (graph.view root).prune (above ++ [name]) := by
      rw [hrest, put_same]
    rw [hmove, fault?_ofExcept, faultOf_attach, hroot, Node.View.landing_concat,
      List.getLast?_concat]
    rfl

/-- What is seen after a move, also after one that loses its node. -/
theorem view_move_displaced (graph : Graph) (root : String) (src dest : Path) :
    (graph.move root src dest).graph.view =
      graph.view.put root ((graph.view root).displaced src dest) := by
  unfold Node.View.displaced
  by_cases hmovable : (graph.view root).Movable src dest
  · rw [if_pos hmovable]
    exact (move_of_movable hmovable).2
  · rw [if_neg hmovable, Node.View.archived]
    by_cases hmissing : src = [] ∨ graph.get? root src = none
    · have hnot : ¬ (src ≠ [] ∧ (graph.view root src).isSome) := by
        rw [Option.isSome_iff_ne_none, ne_eq (graph.view root src), view_eq_none_iff]
        exact fun hthere => hmissing.elim hthere.1 hthere.2
      rw [if_neg hnot, put_self, move_of_take?_none (take?_of_missing hmissing)]
    · rw [not_or] at hmissing
      obtain ⟨node, hget⟩ := Option.ne_none_iff_exists'.1 hmissing.2
      obtain ⟨rest, htake, -⟩ := take?_of_get? hmissing.1 hget
      have htaken : (graph.take? root src).isSome := by
        rw [htake]
        rfl
      rw [if_pos ⟨hmissing.1, by rw [face_of_get? hget]; rfl⟩]
      exact (view_losing_move ⟨htaken, (move_of_not_movable hmovable).1⟩).2

/-- **Operations are what is seen below their root.**  Whether an operation is refused, and with
which fault, and what is seen after it, is told by what was seen below the root before it. -/
theorem perform_eq (graph : Graph) (root : String) (op : Operation) :
    (graph.perform root op).fault? = op.fault? root (graph.view root) ∧
      (graph.perform root op).graph.view =
        graph.view.put root (op.after root (graph.view root)) := by
  cases op with
  | createRoot =>
    refine ⟨fault?_createRoot .., (view_createRoot graph root).trans ?_⟩
    unfold View.added Operation.after
    split
    · exact (put_self ..).symm
    · rfl
  | create path node =>
    exact ⟨(fault?_ofExcept ..).trans (faultOf_create ..), view_create graph root path node⟩
  | move src dest => exact ⟨fault?_move .., view_move_displaced graph root src dest⟩
  | toggleItem path => exact ⟨fault?_toggleItem .., view_toggleItem graph root path⟩
  | updateItem path item => exact ⟨fault?_updateItem .., view_updateItem graph root path item⟩
  | delete path => exact ⟨fault?_delete .., view_delete graph root path⟩
  | archive path => exact ⟨fault?_delete .., view_delete graph root path⟩

end Graph

end TaskTree
