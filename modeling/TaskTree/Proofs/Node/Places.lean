import TaskTree.Proofs.Node.View

/-!
# The places in a node

Nodes stand in a node at its places, which are paths.  They are listed as one
reads a tree from above: each place before those below it, and what is below
one child before what is below the next, in the order of the names.  This is
the order of paths (`places_increasing`), so the list has each place once, and
it has all of them (`mem_places_iff`).
-/

namespace TaskTree

namespace Node

/-- In every branch the names are distinct, so that the nodes below it are a mapping. -/
inductive IsMapped : Node → Prop
  | leaf (item : Item) : IsMapped (.leaf item)
  | branch {kind : BranchKind} {children : List (String × Node)}
      (distinct : Named.IsDistinct children) (below : ∀ entry ∈ children, IsMapped entry.2) :
      IsMapped (.branch kind children)

/-- The children of a mapped branch have different names and are mapped. -/
theorem IsMapped.children {kind : BranchKind} {children : List (String × Node)}
    (h : IsMapped (.branch kind children)) :
    Named.IsDistinct children ∧ ∀ entry ∈ children, IsMapped entry.2 := by
  cases h with
  | branch distinct below => exact ⟨distinct, below⟩

/-! Places. -/

mutual

/-- The places in a node: itself, and then the places below each child, in the order of the
names. -/
def places : Node → List Path
  | .leaf _ => [[]]
  | .branch _ children =>
    [] :: (Named.sorted (placesBelow children)).flatMap fun entry => entry.2.map (entry.1 :: ·)

/-- The places in named nodes, under their names. -/
def placesBelow : List (String × Node) → List (String × List Path)
  | [] => []
  | (name, child) :: rest => (name, child.places) :: placesBelow rest

end

/-- Places are listed child by child. -/
theorem placesBelow_eq (children : List (String × Node)) :
    placesBelow children = Named.mapThings places children := by
  induction children with
  | nil => rfl
  | cons entry rest ih => rw [placesBelow, ih]; rfl

/-- The places in a child, as places of the branch above it. -/
def placesUnder (entry : String × Node) : List Path :=
  entry.2.places.map (entry.1 :: ·)

/-- A branch comes before the places below its children, in the order of their names. -/
theorem places_branch (kind : BranchKind) (children : List (String × Node)) :
    (Node.branch kind children).places =
      [] :: (Named.sorted children).flatMap placesUnder := by
  rw [places, placesBelow_eq, Named.sorted_mapThings, Named.mapThings, List.flatMap_map]
  rfl

/-- A node is the first of its places. -/
theorem exists_places_eq (node : Node) :
    ∃ below, node.places = [] :: below ∧ ∀ path ∈ below, path ≠ [] := by
  cases node with
  | leaf item => exact ⟨[], rfl, by simp⟩
  | branch kind children =>
    refine ⟨_, places_branch kind children, fun path hpath => ?_⟩
    obtain ⟨entry, -, hunder⟩ := List.mem_flatMap.1 hpath
    obtain ⟨rest, -, rfl⟩ := List.mem_map.1 hunder
    exact List.cons_ne_nil _ _

/-- The places of a node are the paths at whose ends nodes stand. -/
theorem mem_places_iff {node : Node} (h : IsMapped node) {path : Path} :
    path ∈ node.places ↔ (node.get? path).isSome := by
  induction node using byChildren generalizing path with
  | leaf item => cases path <;> simp [places, get?]
  | branch kind children ih =>
    obtain ⟨hdistinct, hbelow⟩ := h.children
    rw [places_branch]
    cases path with
    | nil => simp [get?]
    | cons segment rest =>
      have hunder : segment :: rest ∈ (Named.sorted children).flatMap placesUnder ↔
          ∃ child, (segment, child) ∈ children ∧ rest ∈ child.places := by
        simp only [List.mem_flatMap, Named.mem_sorted, placesUnder, List.mem_map, List.cons.injEq]
        constructor
        · rintro ⟨⟨name, child⟩, hmem, p, hp, rfl, rfl⟩
          exact ⟨child, hmem, hp⟩
        · rintro ⟨child, hmem, hrest⟩
          exact ⟨(segment, child), hmem, rest, hrest, rfl, rfl⟩
      simp only [List.mem_cons, reduceCtorEq, false_or, hunder, get?]
      cases hfound : Named.find? segment children with
      | none =>
        simp only [Option.isSome_none, Bool.false_eq_true, iff_false]
        rintro ⟨child, hmem, -⟩
        rw [Named.find?_of_mem hdistinct hmem] at hfound
        cases hfound
      | some child =>
        have hmem := Named.mem_of_find? hfound
        rw [← ih _ hmem (hbelow _ hmem)]
        constructor
        · rintro ⟨child', hmem', hrest⟩
          have hsame := (Named.find?_of_mem hdistinct hmem').symm.trans hfound
          cases hsame
          exact hrest
        · intro hrest
          exact ⟨child, hmem, hrest⟩

/-- Each place comes before those below it, and before those whose names are greater. -/
theorem places_increasing {node : Node} (h : IsMapped node) : node.places.Pairwise (· < ·) := by
  induction node using byChildren with
  | leaf item => simp [places]
  | branch kind children ih =>
    obtain ⟨hdistinct, hbelow⟩ := h.children
    rw [places_branch, List.pairwise_cons, List.pairwise_flatMap]
    refine ⟨?_, ?_, ?_⟩
    · intro path hpath
      obtain ⟨entry, -, hunder⟩ := List.mem_flatMap.1 hpath
      obtain ⟨rest, -, rfl⟩ := List.mem_map.1 hunder
      exact List.nil_lt_cons _ _
    · intro entry hentry
      have hmem := Named.mem_sorted.1 hentry
      rw [placesUnder, List.pairwise_map]
      refine (ih entry hmem (hbelow entry hmem)).imp ?_
      intro p q hpq
      exact List.cons_lt_cons_iff.2 (.inr ⟨rfl, hpq⟩)
    · refine (Named.sorted_increasing hdistinct).imp ?_
      intro a b hab p hp q hq
      obtain ⟨rest, -, rfl⟩ := List.mem_map.1 hp
      obtain ⟨rest', -, rfl⟩ := List.mem_map.1 hq
      exact List.cons_lt_cons_iff.2 (.inl hab)

end Node

end TaskTree
