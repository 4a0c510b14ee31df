import TaskTree.Command.Basic
import TaskTree.Proofs.Graph.Snapshot

/-!
# Names in graphs

No command breaks the rule that names are distinct and not the reserved one:
whatever is put under a name takes the place of what was there, and names are
looked at before they come into a graph (`IsWellNamed.execute`).
-/

namespace TaskTree

namespace Node

/-- A branch with a well-named node under a name that is not the reserved one. -/
theorem WellNamed.insert_child {kind : BranchKind} {children : Named Node}
    (h : WellNamed (.branch kind children)) {name : String} (hname : name ≠ Path.reserved)
    {child : Node} (hchild : WellNamed child) :
    WellNamed (.branch kind (Named.insert name child children)) := by
  obtain ⟨hdistinct, hunreserved, hbelow⟩ := wellNamed_branch_iff.1 h
  refine .branch (hdistinct.insert name child) ?_ ?_
  · rw [Named.mem_names_insert]
    intro hcases
    rcases hcases with heq | hmem
    · exact hname heq.symm
    · exact hunreserved hmem
  · intro entry hentry
    rcases Named.mem_insert hentry with rfl | hold
    · exact hchild
    · exact hbelow entry hold

/-- Erasing a child leaves no bad name behind. -/
theorem WellNamed.erase_child {kind : BranchKind} {children : Named Node}
    (h : WellNamed (.branch kind children)) (name : String) :
    WellNamed (.branch kind (Named.erase name children)) := by
  obtain ⟨hdistinct, hunreserved, hbelow⟩ := wellNamed_branch_iff.1 h
  refine .branch (hdistinct.erase name) ?_ fun entry hentry =>
    hbelow entry (Named.mem_of_mem_erase hentry)
  intro hmem
  obtain ⟨entry, hentry, heq⟩ := List.mem_map.1 hmem
  exact hunreserved (List.mem_map.2 ⟨entry, Named.mem_of_mem_erase hentry, heq⟩)

/-- The children of a well-named branch are well named, and so are their names. -/
theorem WellNamed.child {kind : BranchKind} {children : Named Node}
    (h : WellNamed (.branch kind children)) {name : String} {child : Node}
    (hfound : Named.find? name children = some child) :
    name ≠ Path.reserved ∧ WellNamed child := by
  obtain ⟨-, hunreserved, hbelow⟩ := wellNamed_branch_iff.1 h
  have hmem := Named.mem_of_find? hfound
  refine ⟨fun heq => hunreserved ?_, hbelow _ hmem⟩
  exact heq ▸ List.mem_map.2 ⟨_, hmem, rfl⟩

/-- Storing a well-named node under a legal name keeps names legal. -/
theorem WellNamed.insert {new : Node} {name : String} (hname : name ≠ Path.reserved)
    (hnew : WellNamed new) {path : Path} {node node' : Node} (h : WellNamed node)
    (hok : Node.insert new name node path = .ok node') : WellNamed node' := by
  induction path generalizing node node' with
  | nil =>
    cases node with
    | leaf item => cases hok
    | branch kind children =>
      cases hok
      exact h.insert_child hname hnew
  | cons segment rest ih =>
    cases node with
    | leaf item => cases hok
    | branch kind children =>
      cases hfound : Named.find? segment children with
      | none => simp only [Node.insert, hfound, reduceCtorEq] at hok
      | some child =>
        cases hchild : Node.insert new name child rest with
        | error fault => simp only [Node.insert, hfound, hchild, reduceCtorEq] at hok
        | ok child' =>
          simp only [Node.insert, hfound, hchild] at hok
          cases hok
          obtain ⟨hsegment, hold⟩ := h.child hfound
          exact h.insert_child hsegment (ih hold hchild)

/-- What is taken away is well named under an unreserved name, and so is what is left. -/
theorem WellNamed.detach? {path : Path} {node sub rest : Node} (h : WellNamed node)
    (htake : node.detach? path = some (sub, rest)) :
    WellNamed sub ∧ WellNamed rest ∧ ∀ name, path.getLast? = some name → name ≠ Path.reserved := by
  induction path generalizing node rest with
  | nil => cases node <;> cases htake
  | cons segment more ih =>
    cases node with
    | leaf item => cases htake
    | branch kind children =>
      cases hfound : Named.find? segment children with
      | none => cases more <;> simp [Node.detach?, hfound] at htake
      | some child =>
        obtain ⟨hsegment, hchild⟩ := h.child hfound
        cases more with
        | nil =>
          simp only [Node.detach?, hfound, Option.map_some, Option.some.injEq, Prod.mk.injEq]
            at htake
          obtain ⟨rfl, rfl⟩ := htake
          exact ⟨hchild, h.erase_child segment, fun name hname => by cases hname; exact hsegment⟩
        | cons next more =>
          simp only [Node.detach?, hfound] at htake
          obtain ⟨⟨sub', left⟩, hdetach, heq⟩ := Option.map_eq_some_iff.1 htake
          cases heq
          obtain ⟨hsub, hleft, hlast⟩ := ih hchild hdetach
          refine ⟨hsub, h.insert_child hsegment hleft, fun name hname => hlast name ?_⟩
          rwa [List.getLast?_cons_cons] at hname

/-- A change that keeps names legal does so at any path. -/
theorem WellNamed.alter {change : Node → Except Fault Node}
    (hchange : ∀ {node node'}, WellNamed node → change node = .ok node' → WellNamed node')
    {path : Path} {node node' : Node} (h : WellNamed node)
    (hok : node.alter change path = .ok node') : WellNamed node' := by
  induction path generalizing node node' with
  | nil => exact hchange h (by cases node <;> exact hok)
  | cons segment rest ih =>
    cases node with
    | leaf item =>
      cases hok
      exact h
    | branch kind children =>
      cases hfound : Named.find? segment children with
      | none =>
        simp only [Node.alter, hfound] at hok
        cases hok
        exact h
      | some child =>
        cases hchild : child.alter change rest with
        | error fault => simp only [Node.alter, hfound, hchild, reduceCtorEq] at hok
        | ok child' =>
          simp only [Node.alter, hfound, hchild] at hok
          cases hok
          obtain ⟨hsegment, hold⟩ := h.child hfound
          exact h.insert_child hsegment (ih hold hchild)

/-- A toggled item is well named: it has no children. -/
theorem WellNamed.toggle {place : String} {node node' : Node}
    (hok : node.toggle place = .ok node') : WellNamed node' := by
  cases node with
  | branch kind children => cases hok
  | leaf item =>
    cases hok
    exact .leaf _

/-- Renaming an item keeps names legal. -/
theorem WellNamed.renameItem {place name : String} {item : Item} {node node' : Node}
    (h : WellNamed node) (hok : Node.renameItem place name (.leaf item) node = .ok node') :
    WellNamed node' := by
  cases node with
  | leaf item' => cases hok
  | branch kind children =>
    unfold Node.renameItem at hok
    simp only at hok
    split at hok
    · cases hok
      exact h
    · cases hok
    · split at hok
      · cases hok
      · next hcheck =>
        cases hok
        exact (h.erase_child name).insert_child (Path.checkSegment_eq_ok_iff.1 hcheck).unreserved
          (.leaf item)

end Node

namespace Graph

variable {graph : Graph}

/-- The empty graph is well named. -/
theorem isWellNamed_empty : empty.IsWellNamed :=
  ⟨List.nodup_nil, fun _ h => by cases h⟩

/-- A well-named node stored as a root keeps names legal. -/
theorem IsWellNamed.insert (h : graph.IsWellNamed) (root : String) {top : Node}
    (htop : top.WellNamed) : IsWellNamed (Named.insert root top graph) := by
  refine ⟨h.distinct.insert root top, fun entry hentry => ?_⟩
  rcases Named.mem_insert hentry with rfl | hold
  · exact htop
  · exact h.roots entry hold

/-- Every root of a well-named graph holds a well-named node. -/
theorem IsWellNamed.top (h : graph.IsWellNamed) {root : String} {top : Node}
    (hfound : Named.find? root graph = some top) : top.WellNamed :=
  h.roots _ (Named.mem_of_find? hfound)

/-- Every node of a well-named graph is well named. -/
theorem IsWellNamed.get? (h : graph.IsWellNamed) {root : String} {path : Path} {node : Node}
    (hget : graph.get? root path = some node) : node.WellNamed := by
  obtain ⟨top, hfound, hbelow⟩ := Option.bind_eq_some_iff.1 hget
  have htop := h.top hfound
  clear hget hfound h
  induction path generalizing top with
  | nil =>
    obtain rfl : top = node := by cases top <;> simpa [Node.get?] using hbelow
    exact htop
  | cons segment rest ih =>
    cases top with
    | leaf item => cases hbelow
    | branch kind children =>
      cases hchild : Named.find? segment children with
      | none => simp [Node.get?, hchild] at hbelow
      | some child =>
        simp only [Node.get?, hchild] at hbelow
        exact ih child hbelow (htop.child hchild).2

/-- A result is well named if it is a graph. -/
def IsWellNamedResult (result : Except Fault Graph) : Prop :=
  ∀ graph, result = .ok graph → graph.IsWellNamed

/-- A change ends well named if its result is, and a refusal changes nothing. -/
theorem IsWellNamed.ofExcept (h : graph.IsWellNamed) {result : Except Fault Graph}
    (hresult : IsWellNamedResult result) : (Change.ofExcept graph result).graph.IsWellNamed := by
  cases result with
  | error fault => exact h
  | ok graph' => exact hresult graph' rfl

/-- Creating a root keeps names legal. -/
theorem IsWellNamed.createRoot (h : graph.IsWellNamed) (root : String) :
    IsWellNamedResult (graph.createRoot root) := by
  intro graph' hok
  unfold Graph.createRoot at hok
  split at hok
  · cases hok
  · split at hok
    · cases hok
    · cases hok
      exact h.insert root (.branch List.nodup_nil List.not_mem_nil fun _ h => by cases h)

/-- Creating a well-named node keeps names legal: the reserved name is refused. -/
theorem IsWellNamed.create (h : graph.IsWellNamed) (root : String) (path : Path) {node : Node}
    (hnode : node.WellNamed) : IsWellNamedResult (graph.create root path node) := by
  intro graph' hok
  unfold Graph.create at hok
  split at hok
  · cases hok
  · next name hlast =>
    split at hok
    · cases hok
    · next hcheck =>
      split at hok
      · cases hok
      · next top hfound =>
        split at hok
        · cases hok
        · next top' htop =>
          cases hok
          have hlegal := Path.check_eq_ok_iff.1 hcheck name (List.mem_of_getLast? hlast)
          exact h.insert root (Node.WellNamed.insert hlegal.unreserved hnode (h.top hfound) htop)

/-- What is taken out is well named, what is left is too, and the name taken is not the reserved
one. -/
theorem IsWellNamed.take? (h : graph.IsWellNamed) {root : String} {path : Path} {node : Node}
    {rest : Graph} (htake : graph.take? root path = some (node, rest)) :
    node.WellNamed ∧ rest.IsWellNamed ∧
      ∀ name, path.getLast? = some name → name ≠ Path.reserved := by
  unfold Graph.take? at htake
  split at htake
  · cases htake
  · next top hfound =>
    obtain ⟨⟨sub, left⟩, hdetach, heq⟩ := Option.map_eq_some_iff.1 htake
    cases heq
    obtain ⟨hsub, hleft, hlast⟩ := (h.top hfound).detach? hdetach
    exact ⟨hsub, h.insert root hleft, hlast⟩

/-- A change that keeps names legal does so below any root. -/
theorem IsWellNamed.alter (h : graph.IsWellNamed) (root : String) (path : Path)
    {change : Node → Except Fault Node}
    (hchange : ∀ {node node'}, Node.WellNamed node → change node = .ok node' → node'.WellNamed) :
    IsWellNamedResult (graph.alter root path change) := by
  intro graph' hok
  unfold Graph.alter at hok
  split at hok
  · cases hok
    exact h
  · next top hfound =>
    split at hok
    · cases hok
    · next top' htop =>
      cases hok
      exact h.insert root ((h.top hfound).alter hchange htop)

/-- Deleting keeps names legal. -/
theorem IsWellNamed.delete (h : graph.IsWellNamed) (root : String) (path : Path) :
    IsWellNamedResult (graph.delete root path) := by
  intro graph' hok
  unfold Graph.delete at hok
  split at hok
  · cases hok
  · next htake =>
    cases hok
    exact (h.take? htake).2.1

/-- Attaching a well-named node under a legal name keeps names legal. -/
theorem IsWellNamed.attach (h : graph.IsWellNamed) (root : String) (dest : Path) {name : String}
    (hname : name ≠ Path.reserved) {node : Node} (hnode : node.WellNamed) :
    IsWellNamedResult (graph.attach root dest name node) := by
  intro graph' hok
  unfold Graph.attach at hok
  split at hok
  · cases hok
  · cases hok
  · split at hok
    · cases hok
    · refine h.alter root dest (fun {target target'} htarget hdone => ?_) graph' hok
      cases target with
      | leaf item => cases hdone
      | branch kind children =>
        cases hdone
        exact htarget.insert_child hname hnode

/-- Moving keeps names legal, also where the moved node is lost. -/
theorem IsWellNamed.move (h : graph.IsWellNamed) (root : String) (src dest : Path) :
    (graph.move root src dest).graph.IsWellNamed := by
  unfold Graph.move
  split
  · next name node rest hlast htake =>
    obtain ⟨hnode, hrest, hname⟩ := h.take? htake
    exact hrest.ofExcept (hrest.attach root dest (hname name hlast) hnode)
  · exact h

/-- Updating an item keeps names legal. -/
theorem IsWellNamed.updateItem (h : graph.IsWellNamed) (root : String) (path : Path)
    (item : Item) : IsWellNamedResult (graph.updateItem root path (.leaf item)) := by
  intro graph' hok
  unfold Graph.updateItem at hok
  split at hok
  · cases hok
    exact h
  · exact h.alter root _ Node.WellNamed.renameItem graph' hok

/-- **Names stay apart.**  A command leaves a well-named graph well named, whether it is done
or refused. -/
theorem IsWellNamed.execute (h : graph.IsWellNamed) (command : Command) :
    (graph.execute command).graph.IsWellNamed := by
  cases command with
  | createRoot root => exact h.ofExcept (h.createRoot root)
  | createSection root path =>
    exact h.ofExcept (h.create root path
      (.branch List.nodup_nil List.not_mem_nil fun _ h => by cases h))
  | createItem root path title description state =>
    exact h.ofExcept (h.create root path (.leaf _))
  | updateItem root path title description state => exact h.ofExcept (h.updateItem root path _)
  | toggleItem root path =>
    exact h.ofExcept (h.alter root path fun _ hok => Node.WellNamed.toggle hok)
  | move root src dest => exact h.move root src dest
  | archive root path => exact h.ofExcept (h.delete root path)

end Graph

end TaskTree
