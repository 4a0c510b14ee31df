import TaskTree.Node.Json
import TaskTree.Proofs.Json.Layout
import TaskTree.Proofs.Node.View

/-!
# Canonical nodes

A node is well named if the names in each of its branches are distinct, so that
children are a mapping, and if none of them is the reserved one, so that the
object of the node has room for its kind.  The canonical form of a node has the
children of every branch in the order of their names.

Well-named nodes are alike exactly if their canonical forms are equal
(`canonical_eq_iff`).  The object of a node is that of its canonical form, and
reading it gives the canonical form (`ofJsonAt_toJson`).
-/

namespace TaskTree.Node

/-- In every branch the names are distinct, and none is the reserved one. -/
inductive WellNamed : Node → Prop
  | leaf (item : Item) : WellNamed (.leaf item)
  | branch {kind : BranchKind} {children : List (String × Node)}
      (distinct : Named.IsDistinct children) (unreserved : Path.reserved ∉ Named.names children)
      (below : ∀ entry ∈ children, WellNamed entry.2) : WellNamed (.branch kind children)

/-- A branch is well named when its children have different legal names and are well named. -/
theorem wellNamed_branch_iff {kind : BranchKind} {children : List (String × Node)} :
    WellNamed (.branch kind children) ↔ Named.IsDistinct children ∧
      Path.reserved ∉ Named.names children ∧ ∀ entry ∈ children, WellNamed entry.2 := by
  constructor
  · intro h
    cases h with
    | branch distinct unreserved below => exact ⟨distinct, unreserved, below⟩
  · intro hnamed
    obtain ⟨distinct, unreserved, below⟩ := hnamed
    exact .branch distinct unreserved below

mutual

/-- The node with all children in the order of their names. -/
def canonical : Node → Node
  | .leaf item => .leaf item
  | .branch kind children => .branch kind (Named.sorted (canonicalBelow children))

/-- The canonical forms of named nodes, under their names. -/
def canonicalBelow : List (String × Node) → List (String × Node)
  | [] => []
  | (name, child) :: rest => (name, child.canonical) :: canonicalBelow rest

end

/-- Children are put in order one by one. -/
theorem canonicalBelow_eq (children : List (String × Node)) :
    canonicalBelow children = Named.mapThings canonical children := by
  induction children with
  | nil => rfl
  | cons entry rest ih => rw [canonicalBelow, ih]; rfl

/-- Children are written one by one. -/
theorem childrenJson_eq (children : List (String × Node)) :
    childrenJson children = Named.mapThings toJson children := by
  induction children with
  | nil => rfl
  | cons entry rest ih => rw [childrenJson, ih]; rfl

/-- A child is less deep than the row it is in. -/
theorem depth_lt_depthBelow {children : List (String × Node)} {entry : String × Node}
    (h : entry ∈ children) : entry.2.depth < depthBelow children := by
  induction children with
  | nil => cases h
  | cons first rest ih =>
    rw [depthBelow]
    rcases List.mem_cons.1 h with rfl | h
    · omega
    · have := ih h
      omega

/-- No way down to something is longer than the node is deep. -/
theorem length_le_depth {node : Node} {path : Path} (h : (node.view path).isSome) :
    path.length ≤ node.depth := by
  induction path generalizing node with
  | nil => exact Nat.zero_le _
  | cons segment rest ih =>
    cases node with
    | leaf item => cases h
    | branch kind children =>
      rw [view_branch_cons] at h
      cases hfound : Named.find? segment children with
      | none =>
        rw [hfound] at h
        cases h
      | some child =>
        rw [hfound] at h
        have hrest := ih h
        have hchild : child.depth < depthBelow children :=
          depth_lt_depthBelow (Named.mem_of_find? hfound)
        rw [List.length_cons, depth]
        omega

/-- The children of a canonical branch, in the order of their names. -/
theorem canonical_branch (kind : BranchKind) (children : List (String × Node)) :
    (Node.branch kind children).canonical =
      .branch kind (Named.mapThings canonical (Named.sorted children)) := by
  rw [canonical, canonicalBelow_eq, Named.sorted_mapThings]

/-- The canonical form of a well-named node looks like the node. -/
theorem canonical_alike {node : Node} (h : WellNamed node) : Alike node.canonical node := by
  induction h with
  | leaf item => exact Alike.refl _
  | @branch kind children distinct unreserved below ih =>
    rw [canonical_branch]
    refine alike_branch_iff.2 ⟨rfl, fun name => ?_⟩
    rw [Named.find?_mapThings, Named.find?_sorted distinct]
    cases hfound : Named.find? name children with
    | none => exact .none
    | some child => exact .some (ih _ (Named.mem_of_find? hfound))

/-- Nodes that look alike have one canonical form. -/
theorem canonical_eq_of_alike {a b : Node} (ha : WellNamed a) (hb : WellNamed b)
    (h : Alike a b) : a.canonical = b.canonical := by
  induction ha generalizing b with
  | leaf item =>
    cases hb with
    | leaf item' => rw [alike_leaf_iff.1 h]
    | branch => exact absurd h not_alike_leaf_branch
  | @branch kind children distinct unreserved below ih =>
    cases hb with
    | leaf item => exact absurd h.symm not_alike_leaf_branch
    | @branch kind' children' distinct' unreserved' below' =>
      obtain ⟨rfl, hchildren⟩ := alike_branch_iff.1 h
      rw [canonical, canonical, canonicalBelow_eq, canonicalBelow_eq]
      congr 1
      refine Named.sorted_eq_of_find?_eq (distinct.mapThings _) (distinct'.mapThings _) ?_
      intro name
      rw [Named.find?_mapThings, Named.find?_mapThings]
      have hname := hchildren name
      cases ha : Named.find? name children with
      | none =>
        cases hb : Named.find? name children' with
        | none => rfl
        | some b => rw [ha, hb] at hname; cases hname
      | some a =>
        cases hb : Named.find? name children' with
        | none => rw [ha, hb] at hname; cases hname
        | some b =>
          rw [ha, hb] at hname
          cases hname with
          | some hab =>
            exact congrArg some
              (ih _ (Named.mem_of_find? ha) (below' _ (Named.mem_of_find? hb)) hab)

/-- **Canonical forms decide likeness.**  Well-named nodes are equal as nested mappings
exactly if their canonical forms are the same node. -/
theorem canonical_eq_iff {a b : Node} (ha : WellNamed a) (hb : WellNamed b) :
    a.canonical = b.canonical ↔ Alike a b := by
  refine ⟨fun h => ?_, canonical_eq_of_alike ha hb⟩
  have hab : Alike a.canonical b := h ▸ canonical_alike hb
  exact (canonical_alike ha).symm.trans hab

/-! The objects of nodes. -/

/-- Insertion order leaves no trace in the object of a node. -/
theorem toJson_canonical (node : Node) : node.canonical.toJson = node.toJson := by
  induction node using byChildren with
  | leaf item => rfl
  | branch kind children ih =>
    have hbelow : Named.mapThings toJson (Named.mapThings canonical children) =
        Named.mapThings toJson children := by
      unfold Named.mapThings
      rw [List.map_map]
      exact List.map_congr_left fun entry hentry => Prod.ext rfl (ih entry hentry)
    rw [canonical, canonicalBelow_eq, toJson, toJson, childrenJson_eq, childrenJson_eq,
      Named.sorted_mapThings toJson, Named.sorted_sorted, ← Named.sorted_mapThings toJson, hbelow]

/-- The object of a well-named node is made of strings and objects with distinct names. -/
theorem isTextual_toJson {node : Node} (h : WellNamed node) :
    Json.IsTextual (node.depth + 1) node.toJson := by
  induction h with
  | leaf item =>
    have hdistinct : (["type", "title", "description", "state"] : List String).Nodup := by decide
    refine .object hdistinct ?_
    intro member hm
    simp only [List.mem_cons, List.not_mem_nil, or_false] at hm
    rcases hm with rfl | rfl | rfl | rfl <;> exact .string ..
  | @branch kind children distinct unreserved below ih =>
    rw [toJson, childrenJson_eq, Named.sorted_mapThings]
    refine .object ?_ ?_
    · refine Named.isDistinct_cons.2 ⟨?_, distinct.sorted.mapThings _⟩
      rw [Named.names_mapThings]
      exact fun hmem => unreserved ((Named.names_perm (Named.sorted_perm children)).mem_iff.1 hmem)
    · intro member hm
      rcases List.mem_cons.1 hm with rfl | hm
      · exact .string ..
      · obtain ⟨entry, hentry, rfl⟩ := List.mem_map.1 hm
        have hmem := Named.mem_sorted.1 hentry
        have hdepth := depth_lt_depthBelow hmem
        refine (ih entry hmem).mono ?_
        rw [depth]
        omega

/-- Children that are each read back are read back as a row. -/
theorem childrenOfJson_mapThings {n : Nat} {children : List (String × Node)}
    (hname : ∀ entry ∈ children, entry.1 ≠ Path.reserved)
    (hread : ∀ entry ∈ children, ofJsonAt n entry.2.toJson = .ok entry.2.canonical) :
    childrenOfJson n (Named.mapThings toJson children) =
      .ok (Named.mapThings canonical children) := by
  induction children with
  | nil => rfl
  | cons entry rest ih =>
    have hrest := ih (fun e he => hname e (List.mem_cons_of_mem _ he))
      fun e he => hread e (List.mem_cons_of_mem _ he)
    simp only [Named.mapThings, List.map_cons] at hrest ⊢
    rw [childrenOfJson, if_neg (hname entry (List.mem_cons_self ..)),
      hread entry (List.mem_cons_self ..), hrest]

/-- A word for a kind of branch announces that kind. -/
theorem shapeOf_branch (kind : BranchKind) (members : Named Json) :
    shapeOf (("type", .string kind.word) :: members) = .branch kind := by
  have hfound : Named.find? Path.reserved (("type", Json.string kind.word) :: members) =
      some (.string kind.word) := by
    rw [Named.find?, if_pos (show "type" = Path.reserved from rfl)]
  have hword : kind.word ≠ "item" := by cases kind <;> decide
  rw [shapeOf, hfound]
  simp only [if_neg hword, BranchKind.ofWord?_word]

/-- An item is read back as it was written. -/
theorem ofJsonAt_itemJson (n : Nat) (item : Item) :
    ofJsonAt (n + 1) (itemJson item) = .ok (.leaf item) := by
  have hstate : stateOfJson? (.string item.state.word) = some item.state :=
    TaskState.ofWord?_word item.state
  simp [itemJson, ofJsonAt, shapeOf, itemOfMembers, itemField, Named.find?, Path.reserved, hstate]

/-- **Objects of nodes come back.**  Reading the object of a well-named node, with more
levels left than the node is deep, gives the canonical form of the node. -/
theorem ofJsonAt_toJson {node : Node} (h : WellNamed node) {n : Nat} (hn : node.depth < n) :
    ofJsonAt n node.toJson = .ok node.canonical := by
  obtain ⟨n, rfl⟩ : ∃ m, n = m + 1 := ⟨n - 1, by omega⟩
  induction h generalizing n with
  | leaf item => exact ofJsonAt_itemJson n item
  | @branch kind children distinct unreserved below ih =>
    have hname : ∀ entry ∈ Named.sorted children, entry.1 ≠ Path.reserved := by
      intro entry hentry heq
      exact unreserved (List.mem_map.2 ⟨entry, Named.mem_sorted.1 hentry, heq⟩)
    have hread : ∀ entry ∈ Named.sorted children,
        ofJsonAt n entry.2.toJson = .ok entry.2.canonical := by
      intro entry hentry
      have hmem := Named.mem_sorted.1 hentry
      have hdepth := depth_lt_depthBelow hmem
      rw [depth] at hn
      obtain ⟨m, rfl⟩ : ∃ m, n = m + 1 := ⟨n - 1, by omega⟩
      exact ih entry hmem m (by omega)
    rw [toJson, childrenJson_eq, Named.sorted_mapThings, ofJsonAt, shapeOf_branch,
      canonical_branch]
    simp only
    rw [childrenOfJson, if_pos (by rfl), childrenOfJson_mapThings hname hread]

end TaskTree.Node
