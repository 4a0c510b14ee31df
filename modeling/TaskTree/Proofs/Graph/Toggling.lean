import TaskTree.Proofs.Graph.Places

/-!
# Toggling in graphs

A toggle changes one word of a graph.  `Flips` relates two graphs that differ in the state of the
item at one path and in nothing else, down to the order of the names on the way.  The relation is
symmetric (`Flips.symm`), and whatever it relates, a toggle leads from one to the other
(`Flips.toggleItem`); so a second toggle goes the way of the first back (`toggleItem_back`).
-/

namespace TaskTree

namespace Named

variable {α : Type} {name : String} {a : α} {row front back : Named α}

/-- A thing that is found is the first with its name. -/
theorem split_of_find? (h : find? name row = some a) :
    ∃ front back, row = front ++ (name, a) :: back ∧ name ∉ names front := by
  induction row with
  | nil => cases h
  | cons first rest ih =>
    obtain ⟨n, b⟩ := first
    by_cases hn : n = name
    · subst hn
      obtain rfl : b = a := by simpa [find?] using h
      exact ⟨[], rest, rfl, List.not_mem_nil⟩
    · simp only [find?, if_neg hn] at h
      obtain ⟨front, back, rfl, hfront⟩ := ih h
      refine ⟨(n, b) :: front, back, rfl, ?_⟩
      rw [names, List.map_cons, List.mem_cons, not_or]
      exact ⟨Ne.symm hn, hfront⟩

/-- The first entry of a name is the one that is found. -/
theorem find?_split (hfirst : name ∉ names front) :
    find? name (front ++ (name, a) :: back) = some a := by
  induction front with
  | nil => simp [find?]
  | cons first rest ih =>
    rw [names, List.map_cons, List.mem_cons, not_or] at hfirst
    simp [find?, Ne.symm hfirst.1, ih hfirst.2]

/-- The first entry of a name is the one that is replaced, in its place. -/
theorem insert_split (hfirst : name ∉ names front) (b : α) :
    insert name b (front ++ (name, a) :: back) = front ++ (name, b) :: back := by
  induction front with
  | nil => simp [insert]
  | cons first rest ih =>
    rw [names, List.map_cons, List.mem_cons, not_or] at hfirst
    simp [insert, Ne.symm hfirst.1, ih hfirst.2]

end Named

namespace Node

/-- Two nodes are the same, in the same order, but for the state of the item at a path. -/
inductive Flips : Path → Node → Node → Prop
  | item (item : Item) : Flips [] (.leaf item) (.leaf { item with state := item.state.toggled })
  | inside {name : String} {path : Path} {kind : BranchKind} {front back : Named Node}
    {child child' : Node} (hfirst : name ∉ Named.names front) (h : Flips path child child') :
    Flips (name :: path) (.branch kind (front ++ (name, child) :: back))
      (.branch kind (front ++ (name, child') :: back))

variable {path : Path} {node node' : Node}

theorem Flips.symm (h : Flips path node node') : Flips path node' node := by
  induction h with
  | item item => simpa using Flips.item { item with state := item.state.toggled }
  | inside hfirst _ ih => exact .inside hfirst ih

/-- A toggle flips the item at its path. -/
theorem Flips.alter (h : Flips path node node') (place : String) :
    node.alter (toggle place) path = .ok node' := by
  induction h with
  | item item => rfl
  | inside hfirst _ ih =>
    simp only [Node.alter, Named.find?_split hfirst, ih, Named.insert_split hfirst]

/-- Where an item is, there is a node that differs in its state only. -/
theorem exists_flips {item : Item} (h : node.get? path = some (.leaf item)) :
    ∃ node', Flips path node node' := by
  induction path generalizing node with
  | nil =>
    obtain rfl : node = .leaf item := Option.some.inj ((get?_nil node).symm.trans h)
    exact ⟨_, .item item⟩
  | cons name rest ih =>
    cases node with
    | leaf other => cases h
    | branch kind children =>
      cases hfound : Named.find? name children with
      | none => simp [get?, hfound] at h
      | some child =>
        simp only [get?, hfound] at h
        obtain ⟨child', hflips⟩ := ih h
        obtain ⟨front, back, rfl, hfirst⟩ := Named.split_of_find? hfound
        exact ⟨_, .inside hfirst hflips⟩

end Node

namespace Graph

variable {graph after : Graph} {root : String} {path : Path}

/-- Two graphs are the same, in the same order, but for the state of the item at a path. -/
inductive Flips (root : String) (path : Path) : Graph → Graph → Prop
  | inside {front back : Graph} {top top' : Node} (hfirst : root ∉ Named.names front)
    (h : Node.Flips path top top') :
    Flips root path (front ++ (root, top) :: back) (front ++ (root, top') :: back)

theorem Flips.symm (h : Flips root path graph after) : Flips root path after graph := by
  obtain ⟨hfirst, htop⟩ := h
  exact .inside hfirst htop.symm

/-- A toggle flips the item at its path below its root. -/
theorem Flips.toggleItem (h : Flips root path graph after) :
    graph.toggleItem root path = .ok after := by
  obtain ⟨hfirst, htop⟩ := h
  simp only [Graph.toggleItem, Graph.alter, Named.find?_split hfirst, htop.alter,
    Named.insert_split hfirst]

/-- Every item can be flipped. -/
theorem exists_flips {item : Item} (h : graph.get? root path = some (.leaf item)) :
    ∃ after, Flips root path graph after := by
  obtain ⟨top, hfound, htop⟩ := Option.bind_eq_some_iff.1 h
  obtain ⟨top', hflips⟩ := Node.exists_flips htop
  obtain ⟨front, back, rfl, hfirst⟩ := Named.split_of_find? hfound
  exact ⟨_, .inside hfirst hflips⟩

/-- What a toggle comes to: it finds nothing, or no item, or an item whose state it changes. -/
inductive ToggleOutcome (graph : Graph) (root : String) (path : Path) :
    Except Fault Graph → Prop
  | missing (h : graph.get? root path = none) : ToggleOutcome graph root path (.ok graph)
  | branch {kind : BranchKind} {children : Named Node}
    (h : graph.get? root path = some (.branch kind children)) :
    ToggleOutcome graph root path (.error (.notAnItem (Path.place root path)))
  | item {item : Item} {after : Graph} (h : graph.get? root path = some (.leaf item))
    (hflips : Flips root path graph after) : ToggleOutcome graph root path (.ok after)

/-- A toggle comes to what is told of it. -/
theorem toggleItem_outcome (graph : Graph) (root : String) (path : Path) :
    graph.ToggleOutcome root path (graph.toggleItem root path) := by
  cases h : graph.get? root path with
  | none =>
    rw [toggleItem, alter_of_get?_none h]
    exact .missing h
  | some node =>
    cases node with
    | branch kind children =>
      rw [toggleItem, alter_refused h rfl]
      exact .branch h
    | leaf item =>
      obtain ⟨after, hflips⟩ := exists_flips h
      rw [hflips.toggleItem]
      exact .item h hflips

/-- A toggle that is done is undone by another one. -/
theorem toggleItem_back (hok : graph.toggleItem root path = .ok after) :
    after.toggleItem root path = .ok graph := by
  have houtcome := graph.toggleItem_outcome root path
  rw [hok] at houtcome
  cases houtcome with
  | missing h => exact hok
  | item h hflips => exact hflips.symm.toggleItem

end Graph

end TaskTree
