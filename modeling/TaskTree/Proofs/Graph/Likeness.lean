import TaskTree.Proofs.Graph.Execute

/-!
# Alike graphs change alike

Graphs that look alike may have their names in different orders, as a graph in memory and the one
that is read from its snapshot do.  No command can tell them apart: it is refused on both with one
fault, or done on both, and what it leaves of both looks alike (`Alike.execute`).  At the end of a
path this is shown by following the path down both nodes at once.
-/

namespace TaskTree

/-- Two results are one fault, or things that are related. -/
inductive Matches {α : Type} (related : α → α → Prop) :
    Except Fault α → Except Fault α → Prop
  | ok {a b : α} (h : related a b) : Matches related (.ok a) (.ok b)
  | error (fault : Fault) : Matches related (.error fault) (.error fault)

/-- Matching results are the same fault or two related values. -/
theorem Matches.cases {α : Type} {related : α → α → Prop} {x y : Except Fault α}
    (h : Matches related x y) :
    (∃ fault, x = .error fault ∧ y = .error fault) ∨
      ∃ a b, x = .ok a ∧ y = .ok b ∧ related a b := by
  cases h with
  | error fault => exact .inl ⟨fault, rfl, rfl⟩
  | ok h => exact .inr ⟨_, _, rfl, rfl, h⟩

/-- Related options are both absent or hold related values. -/
private theorem rel_cases {α : Type} {related : α → α → Prop} {x y : Option α}
    (h : Option.Rel related x y) :
    (x = none ∧ y = none) ∨ ∃ a b, x = some a ∧ y = some b ∧ related a b := by
  cases h with
  | none => exact .inl ⟨rfl, rfl⟩
  | some h => exact .inr ⟨_, _, rfl, rfl, h⟩

namespace Node

variable {a b new new' : Node} {kind : BranchKind} {children children' : Named Node}

/-- Alike nodes are one item, or branches of one kind. -/
theorem Alike.cases (h : Alike a b) :
    (∃ item, a = .leaf item ∧ b = .leaf item) ∨
      ∃ kind children children', a = .branch kind children ∧ b = .branch kind children' := by
  have hface := h []
  rw [view_nil, view_nil] at hface
  cases a with
  | leaf item =>
    cases b with
    | leaf item' => exact .inl ⟨item, rfl, congrArg _ (alike_leaf_iff.1 h).symm⟩
    | branch kind' children' => cases hface
  | branch kind children =>
    cases b with
    | leaf item' => cases hface
    | branch kind' children' =>
      obtain ⟨rfl, -⟩ := alike_branch_iff.1 h
      exact .inr ⟨_, _, _, rfl, rfl⟩

/-- Alike branches both have no child of a name, or have alike ones. -/
theorem Alike.child (h : Alike (.branch kind children) (.branch kind children')) (name : String) :
    (Named.find? name children = none ∧ Named.find? name children' = none) ∨
      ∃ child child', Named.find? name children = some child ∧
        Named.find? name children' = some child' ∧ Alike child child' :=
  rel_cases ((alike_branch_iff.1 h).2 name)

/-- Like branches stay alike when like children are stored under one name. -/
theorem Alike.insert_child (h : Alike (.branch kind children) (.branch kind children'))
    (name : String) (hnew : Alike new new') :
    Alike (.branch kind (Named.insert name new children))
      (.branch kind (Named.insert name new' children')) := by
  refine alike_branch_iff.2 ⟨rfl, fun other => ?_⟩
  rw [Named.find?_insert, Named.find?_insert]
  split
  · exact .some hnew
  · exact (alike_branch_iff.1 h).2 other

/-- Like branches stay alike when one name is erased in both. -/
theorem Alike.erase_child (h : Alike (.branch kind children) (.branch kind children'))
    (name : String) :
    Alike (.branch kind (Named.erase name children))
      (.branch kind (Named.erase name children')) := by
  refine alike_branch_iff.2 ⟨rfl, fun other => ?_⟩
  rw [Named.find?_erase, Named.find?_erase]
  split
  · exact .none
  · exact (alike_branch_iff.1 h).2 other

/-- Alike nodes have alike nodes at the end of a path, or both have none. -/
theorem Alike.get? (h : Alike a b) (path : Path) :
    Option.Rel Alike (a.get? path) (b.get? path) := by
  induction path generalizing a b with
  | nil =>
    obtain ⟨item, rfl, rfl⟩ | ⟨kind, children, children', rfl, rfl⟩ := h.cases
    · exact .some h
    · exact .some h
  | cons segment rest ih =>
    obtain ⟨item, rfl, rfl⟩ | ⟨kind, children, children', rfl, rfl⟩ := h.cases
    · exact .none
    · simp only [Node.get?]
      obtain ⟨ha, hb⟩ | ⟨child, child', ha, hb, hchild⟩ := h.child segment
      · rw [ha, hb]
        exact .none
      · rw [ha, hb]
        exact ih hchild

/-! Changes at the end of a path. -/

/-- Storing like nodes at one path of like nodes ends alike. -/
theorem Alike.insert (h : Alike a b) (hnew : Alike new new') (name : String) (path : Path) :
    Matches Alike (Node.insert new name a path) (Node.insert new' name b path) := by
  induction path generalizing a b with
  | nil =>
    obtain ⟨item, rfl, rfl⟩ | ⟨kind, children, children', rfl, rfl⟩ := h.cases
    · exact .error _
    · exact .ok (h.insert_child name hnew)
  | cons segment rest ih =>
    obtain ⟨item, rfl, rfl⟩ | ⟨kind, children, children', rfl, rfl⟩ := h.cases
    · exact .error _
    · simp only [Node.insert]
      obtain ⟨ha, hb⟩ | ⟨child, child', ha, hb, hchild⟩ := h.child segment
      · rw [ha, hb]
        exact .error _
      · rw [ha, hb]
        obtain ⟨fault, hx, hy⟩ | ⟨done, done', hx, hy, hdone⟩ := (ih hchild).cases
        · simp only [hx, hy]
          exact .error fault
        · simp only [hx, hy]
          exact .ok (h.insert_child segment hdone)

/-- Two changes make alike nodes alike, or are refused for both. -/
def Agree (change change' : Node → Except Fault Node) : Prop :=
  ∀ a b, Alike a b → Matches Alike (change a) (change' b)

/-- Changes that agree on like nodes end alike at one path of like nodes. -/
theorem Alike.alter (h : Alike a b) {change change' : Node → Except Fault Node}
    (hchange : Agree change change') (path : Path) :
    Matches Alike (a.alter change path) (b.alter change' path) := by
  induction path generalizing a b with
  | nil =>
    obtain ⟨item, rfl, rfl⟩ | ⟨kind, children, children', rfl, rfl⟩ := h.cases
    · exact hchange _ _ h
    · exact hchange _ _ h
  | cons segment rest ih =>
    obtain ⟨item, rfl, rfl⟩ | ⟨kind, children, children', rfl, rfl⟩ := h.cases
    · exact .ok h
    · simp only [Node.alter]
      obtain ⟨ha, hb⟩ | ⟨child, child', ha, hb, hchild⟩ := h.child segment
      · rw [ha, hb]
        exact .ok h
      · rw [ha, hb]
        obtain ⟨fault, hx, hy⟩ | ⟨done, done', hx, hy, hdone⟩ := (ih hchild).cases
        · simp only [hx, hy]
          exact .error fault
        · simp only [hx, hy]
          exact .ok (h.insert_child segment hdone)

/-- The node that is taken away is as alike as what is left. -/
theorem Alike.detach? (h : Alike a b) (path : Path) :
    Option.Rel (fun found found' => Alike found.1 found'.1 ∧ Alike found.2 found'.2)
      (a.detach? path) (b.detach? path) := by
  by_cases hne : path = []
  · subst hne
    cases a <;> cases b <;> exact .none
  · obtain ⟨ha, hb⟩ | ⟨sub, sub', ha, hb, hsub⟩ := rel_cases (h.get? path)
    · rw [detach?_of_get?_none ha, detach?_of_get?_none hb]
      exact .none
    · obtain ⟨left, hx, hleft⟩ := detach?_of_get? hne ha
      obtain ⟨left', hy, hleft'⟩ := detach?_of_get? hne hb
      rw [hx, hy]
      refine .some ⟨hsub, fun p => ?_⟩
      rw [hleft, hleft', funext h]

/-- Toggling does the same to like nodes. -/
theorem agree_toggle (place : String) : Agree (Node.toggle place) (Node.toggle place) := by
  intro a b h
  obtain ⟨item, rfl, rfl⟩ | ⟨kind, children, children', rfl, rfl⟩ := h.cases
  · exact .ok (Alike.refl _)
  · exact .error _

/-- Renaming an item does the same to like nodes. -/
theorem agree_renameItem (place name : String) (replacement : Node) :
    Agree (Node.renameItem place name replacement) (Node.renameItem place name replacement) := by
  intro a b h
  obtain ⟨item, rfl, rfl⟩ | ⟨kind, children, children', rfl, rfl⟩ := h.cases
  · exact .error _
  · simp only [Node.renameItem]
    obtain ⟨ha, hb⟩ | ⟨child, child', ha, hb, hchild⟩ := h.child name
    · rw [ha, hb]
      exact .ok h
    · rw [ha, hb]
      obtain ⟨item, rfl, rfl⟩ | ⟨kind', below, below', rfl, rfl⟩ := hchild.cases
      · simp only
        split
        · exact .error _
        · split
          · exact .error _
          · exact .ok ((h.erase_child name).insert_child _ (Alike.refl _))
      · exact .error _

end Node

namespace Graph

variable {a b : Graph}

theorem Alike.refl (graph : Graph) : Alike graph graph := fun _ _ => rfl

/-- Alike graphs both have no root of a name, or have alike ones. -/
theorem Alike.root (h : Alike a b) (root : String) :
    (Named.find? root a = none ∧ Named.find? root b = none) ∨
      ∃ top top', Named.find? root a = some top ∧ Named.find? root b = some top' ∧
        Node.Alike top top' :=
  rel_cases (alike_iff.1 h root)

/-- Like graphs stay alike when like nodes are stored as one root. -/
theorem Alike.insert_root (h : Alike a b) (root : String) {top top' : Node}
    (htop : Node.Alike top top') : Alike (Named.insert root top a) (Named.insert root top' b) := by
  intro r path
  rw [view_insert, view_insert, funext fun r => funext (h r), funext htop]

/-- Like graphs answer a read alike: with nothing both, or with like nodes. -/
theorem Alike.get? (h : Alike a b) (root : String) (path : Path) :
    Option.Rel Node.Alike (a.get? root path) (b.get? root path) := by
  unfold Graph.get?
  obtain ⟨ha, hb⟩ | ⟨top, top', ha, hb, htop⟩ := h.root root
  · rw [ha, hb]
    exact .none
  · rw [ha, hb]
    exact htop.get? path

/-- Creating a root ends alike on like graphs. -/
theorem Alike.createRoot (h : Alike a b) (root : String) :
    Matches Alike (a.createRoot root) (b.createRoot root) := by
  unfold Graph.createRoot Named.has
  split
  · exact .error _
  · obtain ⟨ha, hb⟩ | ⟨top, top', ha, hb, htop⟩ := h.root root
    · rw [ha, hb]
      exact .ok (h.insert_root root (Node.Alike.refl _))
    · rw [ha, hb]
      exact .error _

/-- Creating a node ends alike on like graphs. -/
theorem Alike.create (h : Alike a b) (root : String) (path : Path) (node : Node) :
    Matches Alike (a.create root path node) (b.create root path node) := by
  unfold Graph.create
  split
  · exact .error _
  · next name hlast =>
    split
    · exact .error _
    · obtain ⟨ha, hb⟩ | ⟨top, top', ha, hb, htop⟩ := h.root root
      · rw [ha, hb]
        exact .error _
      · rw [ha, hb]
        obtain ⟨fault, hx, hy⟩ | ⟨done, done', hx, hy, hdone⟩ :=
          (htop.insert (Node.Alike.refl node) name path.dropLast).cases
        · simp only [hx, hy]
          exact .error fault
        · simp only [hx, hy]
          exact .ok (h.insert_root root hdone)

/-- Changes that agree on like nodes end alike below one root of like graphs. -/
theorem Alike.alter (h : Alike a b) (root : String) (path : Path)
    {change change' : Node → Except Fault Node} (hchange : Node.Agree change change') :
    Matches Alike (a.alter root path change) (b.alter root path change') := by
  unfold Graph.alter
  obtain ⟨ha, hb⟩ | ⟨top, top', ha, hb, htop⟩ := h.root root
  · rw [ha, hb]
    exact .ok h
  · rw [ha, hb]
    obtain ⟨fault, hx, hy⟩ | ⟨done, done', hx, hy, hdone⟩ := (htop.alter hchange path).cases
    · simp only [hx, hy]
      exact .error fault
    · simp only [hx, hy]
      exact .ok (h.insert_root root hdone)

/-- A node taken out of like graphs leaves like graphs, and the two nodes are alike. -/
theorem Alike.take? (h : Alike a b) (root : String) (path : Path) :
    (a.take? root path = none ∧ b.take? root path = none) ∨
      ∃ sub left sub' left', a.take? root path = some (sub, left) ∧
        b.take? root path = some (sub', left') ∧ Node.Alike sub sub' ∧ Alike left left' := by
  unfold Graph.take?
  obtain ⟨ha, hb⟩ | ⟨top, top', ha, hb, htop⟩ := h.root root
  · rw [ha, hb]
    exact .inl ⟨rfl, rfl⟩
  · rw [ha, hb]
    obtain ⟨hx, hy⟩ | ⟨found, found', hx, hy, hsub, hleft⟩ := rel_cases (htop.detach? path)
    · simp only [hx, hy]
      exact .inl ⟨rfl, rfl⟩
    · simp only [hx, hy]
      exact .inr ⟨_, _, _, _, rfl, rfl, hsub, h.insert_root root hleft⟩

/-- Deleting ends alike on like graphs. -/
theorem Alike.delete (h : Alike a b) (root : String) (path : Path) :
    Matches Alike (a.delete root path) (b.delete root path) := by
  unfold Graph.delete
  obtain ⟨hx, hy⟩ | ⟨sub, left, sub', left', hx, hy, -, hleft⟩ := h.take? root path
  · simp only [hx, hy]
    exact .error _
  · simp only [hx, hy]
    exact .ok hleft

/-- Attaching like nodes ends alike on like graphs. -/
theorem Alike.attach (h : Alike a b) (root : String) (dest : Path) (name : String)
    {node node' : Node} (hnode : Node.Alike node node') :
    Matches Alike (a.attach root dest name node) (b.attach root dest name node') := by
  unfold Graph.attach
  obtain ⟨ha, hb⟩ | ⟨target, target', ha, hb, htarget⟩ := rel_cases (h.get? root dest)
  · rw [ha, hb]
    exact .error _
  · rw [ha, hb]
    obtain ⟨item, rfl, rfl⟩ | ⟨kind, children, children', rfl, rfl⟩ := htarget.cases
    · exact .error _
    · have hname : Named.has name children = Named.has name children' := by
        unfold Named.has
        obtain ⟨hx, hy⟩ | ⟨child, child', hx, hy, -⟩ := htarget.child name
        · rw [hx, hy]
        · rw [hx, hy]
          rfl
      simp only [hname]
      split
      · exact .error _
      · refine h.alter root dest fun target target' htarget => ?_
        obtain ⟨item, rfl, rfl⟩ | ⟨kind, children, children', rfl, rfl⟩ := htarget.cases
        · exact .error _
        · exact .ok (htarget.insert_child name hnode)

/-- Updating an item ends alike on like graphs. -/
theorem Alike.updateItem (h : Alike a b) (root : String) (path : Path) (replacement : Node) :
    Matches Alike (a.updateItem root path replacement) (b.updateItem root path replacement) := by
  unfold Graph.updateItem
  split
  · exact .ok h
  · exact h.alter root _ (Node.agree_renameItem _ _ replacement)

/-! Whole commands. -/

/-- Two changes are refused with one fault or both done, and leave graphs that look alike. -/
structure Change.Matches (x y : Change) : Prop where
  fault : x.fault? = y.fault?
  graph : Alike x.graph y.graph

/-- Matching results make matching changes of like graphs. -/
theorem Alike.ofExcept (h : Alike a b) {x y : Except Fault Graph}
    (hend : TaskTree.Matches Alike x y) : (Change.ofExcept a x).Matches (.ofExcept b y) := by
  cases hend with
  | error fault => exact ⟨rfl, h⟩
  | ok hdone => exact ⟨rfl, hdone⟩

/-- Moving ends alike on like graphs, the lost node included. -/
theorem Alike.move (h : Alike a b) (root : String) (src dest : Path) :
    (a.move root src dest).Matches (b.move root src dest) := by
  unfold Graph.move
  obtain ⟨hx, hy⟩ | ⟨sub, left, sub', left', hx, hy, hsub, hleft⟩ := h.take? root src
  · rw [hx, hy]
    cases src.getLast? <;> exact ⟨rfl, h⟩
  · rw [hx, hy]
    cases src.getLast? with
    | none => exact ⟨rfl, h⟩
    | some name => exact hleft.ofExcept (hleft.attach root dest name hsub)

/-- **Alike graphs change alike.**  A command comes to the same end on graphs that look alike, with
the same fault if it is refused, and they look alike after it. -/
theorem Alike.execute (h : Alike a b) (command : Command) :
    (a.execute command).Matches (b.execute command) := by
  cases command with
  | createRoot root => exact h.ofExcept (h.createRoot root)
  | createSection root path => exact h.ofExcept (h.create root path _)
  | createItem root path title description state => exact h.ofExcept (h.create root path _)
  | updateItem root path title description state => exact h.ofExcept (h.updateItem root path _)
  | toggleItem root path => exact h.ofExcept (h.alter root path (Node.agree_toggle _))
  | move root src dest => exact h.move root src dest
  | archive root path => exact h.ofExcept (h.delete root path)

/-- A command that is refused and loses no node leaves the graph as it was. -/
theorem graph_execute_of_refused {graph : Graph} {command : Command}
    (hkept : ¬ graph.LosesNode command)
    (hrefused : (graph.execute command).fault?.isSome) :
    (graph.execute command).graph = graph := by
  have hunchanged (result : Except Fault Graph)
      (hfault : (Change.ofExcept graph result).fault?.isSome) :
      (Change.ofExcept graph result).graph = graph := by
    cases result with
    | error fault => rfl
    | ok after => cases hfault
  cases command with
  | move root src dest =>
    cases htake : graph.take? root src with
    | none =>
      simp only [Graph.execute]
      rw [move_of_take?_none htake]
    | some found =>
      refine (hkept ⟨?_, hrefused⟩).elim
      rw [htake]
      rfl
  | _ => exact hunchanged _ hrefused

end Graph

end TaskTree
