import TaskTree.Command.Basic
import TaskTree.Proofs.Graph.Snapshot
import TaskTree.Proofs.Node.Depth

/-!
# How many names a graph holds

A command brings at most one new name into a graph (`size_execute`), whatever it does to the names
that are there: what a move attaches it has taken away before.  A graph is nested less deep than it
has names (`isNested_size`), so its depth is bounded by the number of commands that create.
-/

namespace TaskTree

namespace Node

mutual

/-- The number of names below a node. -/
def size : Node → Nat
  | .leaf _ => 0
  | .branch _ children => sizeBelow children

/-- The number of names in a row of nodes and below them. -/
def sizeBelow : List (String × Node) → Nat
  | [] => 0
  | (_, child) :: rest => child.size + 1 + sizeBelow rest

end

/-- A child is smaller than the row it is in. -/
theorem size_lt_sizeBelow {children : List (String × Node)} {entry : String × Node}
    (h : entry ∈ children) : entry.2.size < sizeBelow children := by
  induction children with
  | nil => cases h
  | cons first rest ih =>
    rw [sizeBelow]
    rcases List.mem_cons.1 h with rfl | h
    · omega
    · have := ih h
      omega

/-- A node is no deeper than it is large. -/
theorem depth_le_size (node : Node) : node.depth ≤ node.size := by
  induction node using byChildren with
  | leaf item => exact Nat.le_refl _
  | branch kind children ih =>
    rw [depth, size]
    exact depthBelow_le_iff.2 fun entry hmem =>
      Nat.lt_of_le_of_lt (ih entry hmem) (size_lt_sizeBelow hmem)

/-! Rows of nodes. -/

/-- Storing a child adds at most its size and one. -/
theorem sizeBelow_insert_le (name : String) (node : Node) (row : Named Node) :
    sizeBelow (Named.insert name node row) ≤ sizeBelow row + node.size + 1 := by
  induction row with
  | nil => simp [Named.insert, sizeBelow]
  | cons first rest ih =>
    rw [Named.insert]
    split
    · simp only [sizeBelow]
      omega
    · simp only [sizeBelow]
      omega

/-- A node that takes the place of another one makes the difference of their sizes. -/
theorem sizeBelow_insert_of_find? (node : Node) {name : String} {old : Node} {row : Named Node}
    (h : Named.find? name row = some old) :
    sizeBelow (Named.insert name node row) + old.size = sizeBelow row + node.size := by
  induction row with
  | nil => cases h
  | cons first rest ih =>
    rw [Named.find?] at h
    rw [Named.insert]
    split at h
    · next hname =>
      cases h
      rw [if_pos hname]
      simp only [sizeBelow]
      omega
    · next hname =>
      have := ih h
      rw [if_neg hname]
      simp only [sizeBelow]
      omega

/-- Erasing a child adds nothing. -/
theorem sizeBelow_erase_le (name : String) (row : Named Node) :
    sizeBelow (Named.erase name row) ≤ sizeBelow row := by
  induction row with
  | nil => exact Nat.le_refl _
  | cons first rest ih =>
    rw [Named.erase] at ih ⊢
    rw [List.filter_cons]
    split
    · simp only [sizeBelow]
      omega
    · simp only [sizeBelow]
      omega

/-- Erasing a child takes away its size and one. -/
theorem sizeBelow_erase_of_find? {name : String} {old : Node} {row : Named Node}
    (h : Named.find? name row = some old) :
    sizeBelow (Named.erase name row) + old.size + 1 ≤ sizeBelow row := by
  induction row with
  | nil => cases h
  | cons first rest ih =>
    have hrest := sizeBelow_erase_le name rest
    rw [Named.find?] at h
    rw [Named.erase] at ih hrest ⊢
    rw [List.filter_cons]
    split at h
    · next hname =>
      cases h
      rw [if_neg (by simp [hname])]
      simp only [sizeBelow]
      omega
    · next hname =>
      have := ih h
      rw [if_pos (by simp [hname])]
      simp only [sizeBelow]
      omega

/-! Changes of a node. -/

/-- Storing a node at a path adds at most its size and one. -/
theorem size_insert {new : Node} {name : String} {path : Path} {node node' : Node}
    (hok : Node.insert new name node path = .ok node') :
    node'.size ≤ node.size + new.size + 1 := by
  induction path generalizing node node' with
  | nil =>
    cases node with
    | leaf item => cases hok
    | branch kind children =>
      cases hok
      exact sizeBelow_insert_le name new children
  | cons segment rest ih =>
    cases node with
    | leaf item => cases hok
    | branch kind children =>
      cases hfound : Named.find? segment children with
      | none => simp only [Node.insert, hfound, reduceCtorEq] at hok
      | some child =>
        cases hchild : Node.insert new name child rest with
        | error fault => simp only [Node.insert, hfound, hchild, reduceCtorEq] at hok
        | ok child' =>
          simp only [Node.insert, hfound, hchild] at hok
          cases hok
          have hgrown := ih hchild
          have hplace := sizeBelow_insert_of_find? child' hfound
          rw [size, size]
          omega

/-- What is taken away and what is left have no more names than there were. -/
theorem size_detach? {path : Path} {node sub rest : Node}
    (htake : node.detach? path = some (sub, rest)) : rest.size + sub.size + 1 ≤ node.size := by
  induction path generalizing node rest with
  | nil => cases node <;> cases htake
  | cons segment more ih =>
    cases node with
    | leaf item => cases htake
    | branch kind children =>
      cases hfound : Named.find? segment children with
      | none => cases more <;> simp [Node.detach?, hfound] at htake
      | some child =>
        cases more with
        | nil =>
          simp only [Node.detach?, hfound, Option.map_some, Option.some.injEq, Prod.mk.injEq]
            at htake
          obtain ⟨rfl, rfl⟩ := htake
          exact sizeBelow_erase_of_find? hfound
        | cons next more =>
          simp only [Node.detach?, hfound, Option.map_eq_some_iff, Prod.exists, Prod.mk.injEq]
            at htake
          obtain ⟨sub', left, hdetach, rfl, rfl⟩ := htake
          have hbelow := ih hdetach
          have hplace := sizeBelow_insert_of_find? left hfound
          rw [size, size]
          omega

/-- A change at the end of a path makes a node grow by what it makes the node there grow. -/
theorem size_alter {change : Node → Except Fault Node} {k : Nat}
    (hchange : ∀ {node node'}, change node = .ok node' → node'.size ≤ node.size + k)
    {path : Path} {node node' : Node} (hok : node.alter change path = .ok node') :
    node'.size ≤ node.size + k := by
  induction path generalizing node node' with
  | nil => exact hchange (by cases node <;> exact hok)
  | cons segment rest ih =>
    cases node with
    | leaf item =>
      cases hok
      exact Nat.le_add_right _ _
    | branch kind children =>
      cases hfound : Named.find? segment children with
      | none =>
        simp only [Node.alter, hfound] at hok
        cases hok
        exact Nat.le_add_right _ _
      | some child =>
        cases hchild : child.alter change rest with
        | error fault => simp only [Node.alter, hfound, hchild, reduceCtorEq] at hok
        | ok child' =>
          simp only [Node.alter, hfound, hchild] at hok
          cases hok
          have hgrown := ih hchild
          have hplace := sizeBelow_insert_of_find? child' hfound
          rw [size, size]
          omega

/-- Toggling adds nothing. -/
theorem size_toggle {place : String} {node node' : Node} (hok : node.toggle place = .ok node') :
    node'.size ≤ node.size + 0 := by
  cases node with
  | branch kind children => cases hok
  | leaf item =>
    cases hok
    exact Nat.le_refl _

/-- Renaming an item adds nothing. -/
theorem size_renameItem {place name : String} {item : Item} {node node' : Node}
    (hok : Node.renameItem place name (.leaf item) node = .ok node') :
    node'.size ≤ node.size + 0 := by
  cases node with
  | leaf item' => cases hok
  | branch kind children =>
    unfold Node.renameItem at hok
    simp only at hok
    split at hok
    · cases hok
      exact Nat.le_refl _
    · cases hok
    · next hfound =>
      split at hok
      · cases hok
      · cases hok
        have hleft := sizeBelow_erase_of_find? hfound
        have hput := sizeBelow_insert_le (Path.nameOfTitle item.title) (.leaf item)
          (Named.erase name children)
        simp only [size] at hleft hput ⊢
        omega

end Node

namespace Graph

variable {graph : Graph}

/-- The number of names in a graph. -/
def size (graph : Graph) : Nat :=
  Node.sizeBelow graph

/-- A graph is nested less deep than it has names. -/
theorem isNested_size (graph : Graph) : graph.IsNested (graph.size - 1) := by
  intro entry hmem
  have hdepth := Node.depth_le_size entry.2
  have hsize := Node.size_lt_sizeBelow hmem
  rw [size]
  omega

/-! Operations. -/

/-- A result has no more names than this, if it is a graph. -/
def HasAtMost (k : Nat) (result : Except Fault Graph) : Prop :=
  ∀ graph, result = .ok graph → graph.size ≤ k

/-- A change is as bounded as its result, when the graph before it was. -/
theorem HasAtMost.ofExcept {k : Nat} {result : Except Fault Graph} (h : HasAtMost k result)
    (hbefore : graph.size ≤ k) : (Change.ofExcept graph result).graph.size ≤ k := by
  cases result with
  | error fault => exact hbefore
  | ok graph' => exact h graph' rfl

/-- A new root adds at most one. -/
theorem size_createRoot (graph : Graph) (root : String) :
    HasAtMost (graph.size + 1) (graph.createRoot root) := by
  intro graph' hok
  unfold Graph.createRoot at hok
  split at hok
  · cases hok
  · split at hok
    · cases hok
    · cases hok
      exact Node.sizeBelow_insert_le root .emptyUser graph

/-- A created node adds at most its size and one. -/
theorem size_create (graph : Graph) (root : String) (path : Path) (node : Node) :
    HasAtMost (graph.size + node.size + 1) (graph.create root path node) := by
  intro graph' hok
  unfold Graph.create at hok
  split at hok
  · cases hok
  · split at hok
    · cases hok
    · split at hok
      · cases hok
      · next top hfound =>
        split at hok
        · cases hok
        · next top' htop =>
          cases hok
          have hgrown := Node.size_insert htop
          have hplace := Node.sizeBelow_insert_of_find? top' hfound
          rw [size, size]
          omega

/-- What is taken out is no longer in what is left. -/
theorem size_take? {root : String} {path : Path} {node : Node} {rest : Graph}
    (htake : graph.take? root path = some (node, rest)) :
    rest.size + node.size + 1 ≤ graph.size := by
  unfold Graph.take? at htake
  split at htake
  · cases htake
  · next top hfound =>
    simp only [Option.map_eq_some_iff, Prod.exists, Prod.mk.injEq] at htake
    obtain ⟨sub, left, hdetach, rfl, rfl⟩ := htake
    have hleft := Node.size_detach? hdetach
    have hplace := Node.sizeBelow_insert_of_find? left hfound
    rw [size, size]
    omega

/-- A change adds below a root what it adds to the node it is made on. -/
theorem size_alter (graph : Graph) (root : String) (path : Path)
    {change : Node → Except Fault Node} {k : Nat}
    (hchange : ∀ {node node'}, change node = .ok node' → node'.size ≤ node.size + k) :
    HasAtMost (graph.size + k) (graph.alter root path change) := by
  intro graph' hok
  unfold Graph.alter at hok
  split at hok
  · cases hok
    exact Nat.le_add_right _ _
  · next top hfound =>
    split at hok
    · cases hok
    · next top' htop =>
      cases hok
      have hgrown := Node.size_alter hchange htop
      have hplace := Node.sizeBelow_insert_of_find? top' hfound
      rw [size, size]
      omega

/-- Deleting adds nothing. -/
theorem size_delete (graph : Graph) (root : String) (path : Path) :
    HasAtMost graph.size (graph.delete root path) := by
  intro graph' hok
  unfold Graph.delete at hok
  split at hok
  · cases hok
  · next htake =>
    cases hok
    have := size_take? htake
    omega

/-- Attaching a node adds at most its size and one. -/
theorem size_attach (graph : Graph) (root : String) (dest : Path) (name : String) (node : Node) :
    HasAtMost (graph.size + (node.size + 1)) (graph.attach root dest name node) := by
  intro graph' hok
  unfold Graph.attach at hok
  split at hok
  · cases hok
  · cases hok
  · split at hok
    · cases hok
    · refine size_alter graph root dest (fun {target target'} hdone => ?_) graph' hok
      cases target with
      | leaf item => cases hdone
      | branch kind children =>
        cases hdone
        exact Node.sizeBelow_insert_le name node children

/-- A move attaches no more than it has taken away, and loses that if it is refused. -/
theorem size_move (graph : Graph) (root : String) (src dest : Path) :
    (graph.move root src dest).graph.size ≤ graph.size := by
  unfold Graph.move
  split
  · next name node rest hlast htake =>
    have htaken := size_take? htake
    have hbefore : rest.size ≤ rest.size + (node.size + 1) := Nat.le_add_right _ _
    have hattached := (size_attach rest root dest name node).ofExcept hbefore
    omega
  · exact Nat.le_refl _

/-- Updating an item adds nothing. -/
theorem size_updateItem (graph : Graph) (root : String) (path : Path) (item : Item) :
    HasAtMost (graph.size + 0) (graph.updateItem root path (.leaf item)) := by
  intro graph' hok
  unfold Graph.updateItem at hok
  split at hok
  · cases hok
    exact Nat.le_refl _
  · exact size_alter graph root _ Node.size_renameItem graph' hok

end Graph

/-- A command that creates a node. -/
def CommandOf.creates {S P : Type} : CommandOf S P → Bool
  | .createRoot _ => true
  | .createSection .. => true
  | .createItem .. => true
  | _ => false

namespace Graph

/-- **Names come from creation.**  A command brings at most one new name into a graph, and none if
it does not create. -/
theorem size_execute (graph : Graph) (command : Command) :
    (graph.execute command).graph.size ≤ graph.size + command.creates.toNat := by
  cases command with
  | createRoot root => exact (size_createRoot graph root).ofExcept (Nat.le_add_right _ _)
  | createSection root path =>
    exact (size_create graph root path .emptySection).ofExcept (Nat.le_add_right _ _)
  | createItem root path title description state =>
    exact (size_create graph root path (.leaf _)).ofExcept (Nat.le_add_right _ _)
  | updateItem root path title description state =>
    exact (size_updateItem graph root path _).ofExcept (Nat.le_refl _)
  | toggleItem root path =>
    exact (size_alter graph root path Node.size_toggle).ofExcept (Nat.le_refl _)
  | move root src dest => exact size_move graph root src dest
  | archive root path => exact (size_delete graph root path).ofExcept (Nat.le_refl _)

end Graph

end TaskTree
