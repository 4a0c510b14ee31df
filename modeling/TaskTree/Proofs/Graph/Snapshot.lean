import TaskTree.Graph.Snapshot
import TaskTree.Proofs.Graph.View
import TaskTree.Proofs.Node.Canonical

/-!
# Snapshots come back

The snapshot of a well-named graph is read as its canonical form
(`ofSnapshot_snapshot`), as long as the graph is not nested too deep for a
reader.  So a snapshot tells all of a graph but the order of its names, and
tells nothing else (`snapshot_faithful`).
-/

namespace TaskTree.Graph

/-- The names of the roots are distinct, and so are those in every branch, of which none is
the reserved one. -/
structure IsWellNamed (graph : Graph) : Prop where
  distinct : Named.IsDistinct graph
  roots : ∀ entry ∈ graph, Node.WellNamed entry.2

/-- No way down from a root of the graph has more than `levels` names. -/
def IsNested (levels : Nat) (graph : Graph) : Prop :=
  ∀ entry ∈ graph, entry.2.depth ≤ levels

instance (levels : Nat) (graph : Graph) : Decidable (IsNested levels graph) := by
  unfold IsNested; infer_instance

/-- Every graph is nested as deep as its deepest root. -/
theorem isNested_depthBelow (graph : Graph) : graph.IsNested (Node.depthBelow graph) :=
  fun _ hmem => Nat.le_of_lt (Node.depth_lt_depthBelow hmem)

/-- The graph with all names in order. -/
def canonical (graph : Graph) : Graph :=
  Named.sorted (Named.mapThings Node.canonical graph)

/-- A root put in order is the root of the graph put in order. -/
theorem find?_canonical {graph : Graph} (h : graph.IsWellNamed) (root : String) :
    Named.find? root graph.canonical = (Named.find? root graph).map Node.canonical := by
  rw [canonical, Named.find?_sorted (h.distinct.mapThings _), Named.find?_mapThings]

/-- The canonical form of a graph looks like the graph. -/
theorem canonical_alike {graph : Graph} (h : graph.IsWellNamed) :
    Alike graph.canonical graph := by
  refine alike_iff.2 fun root => ?_
  rw [find?_canonical h]
  cases hfound : Named.find? root graph with
  | none => exact .none
  | some top => exact .some (Node.canonical_alike (h.roots _ (Named.mem_of_find? hfound)))

/-- Graphs that look alike have one canonical form. -/
theorem canonical_eq_of_alike {a b : Graph} (ha : a.IsWellNamed) (hb : b.IsWellNamed)
    (h : Alike a b) : a.canonical = b.canonical := by
  refine Named.sorted_eq_of_find?_eq (ha.distinct.mapThings _) (hb.distinct.mapThings _) ?_
  intro root
  rw [Named.find?_mapThings, Named.find?_mapThings]
  have hroot := alike_iff.1 h root
  cases hfound : Named.find? root a with
  | none =>
    cases hfound' : Named.find? root b with
    | none => rfl
    | some top' => rw [hfound, hfound'] at hroot; cases hroot
  | some top =>
    cases hfound' : Named.find? root b with
    | none => rw [hfound, hfound'] at hroot; cases hroot
    | some top' =>
      rw [hfound, hfound'] at hroot
      cases hroot with
      | some htop =>
        exact congrArg some (Node.canonical_eq_of_alike (ha.roots _ (Named.mem_of_find? hfound))
          (hb.roots _ (Named.mem_of_find? hfound')) htop)

/-- Well-named graphs are alike exactly if their canonical forms are one graph. -/
theorem canonical_eq_iff {a b : Graph} (ha : a.IsWellNamed) (hb : b.IsWellNamed) :
    a.canonical = b.canonical ↔ Alike a b := by
  refine ⟨fun h => ?_, canonical_eq_of_alike ha hb⟩
  have hab : Alike a.canonical b := h ▸ canonical_alike hb
  exact (canonical_alike ha).symm.trans hab

/-! The objects of graphs. -/

/-- A graph is written root by root, in the order of their names. -/
theorem toJson_eq (graph : Graph) :
    graph.toJson = .object (Named.mapThings Node.toJson (Named.sorted graph)) := by
  rw [toJson, Node.childrenJson_eq, Named.sorted_mapThings]

/-- Insertion order leaves no trace in the object of a graph. -/
theorem toJson_canonical (graph : Graph) : graph.canonical.toJson = graph.toJson := by
  have hroots : Named.mapThings Node.toJson (Named.mapThings Node.canonical (Named.sorted graph)) =
      Named.mapThings Node.toJson (Named.sorted graph) := by
    unfold Named.mapThings
    rw [List.map_map]
    exact List.map_congr_left fun entry _ => Prod.ext rfl (Node.toJson_canonical entry.2)
  rw [toJson_eq, toJson_eq, canonical, Named.sorted_sorted, Named.sorted_mapThings, hroots]

/-- The snapshot is the same when the graph is put in order. -/
theorem snapshot_canonical (graph : Graph) : graph.canonical.snapshot = graph.snapshot := by
  rw [snapshot, snapshot, toJson_canonical]

/-- The object of a well-named graph is made of strings and objects with distinct names. -/
theorem isTextual_toJson {levels : Nat} {graph : Graph} (h : graph.IsWellNamed)
    (hnested : graph.IsNested levels) : Json.IsTextual (levels + 2) graph.toJson := by
  rw [toJson_eq]
  refine .object (h.distinct.sorted.mapThings _) ?_
  intro member hm
  obtain ⟨entry, hentry, rfl⟩ := List.mem_map.1 hm
  have hmem := Named.mem_sorted.1 hentry
  have hdepth := hnested entry hmem
  exact (Node.isTextual_toJson (h.roots entry hmem)).mono (by omega)

/-- Roots that are each read back are read back as a graph. -/
theorem rootsOfJson_mapThings {graph : Graph}
    (hread : ∀ entry ∈ graph, Node.ofJson entry.2.toJson = .ok entry.2.canonical) :
    rootsOfJson (Named.mapThings Node.toJson graph) =
      .ok (Named.mapThings Node.canonical graph) := by
  induction graph with
  | nil => rfl
  | cons entry rest ih =>
    have hrest := ih fun e he => hread e (List.mem_cons_of_mem _ he)
    simp only [Named.mapThings, List.map_cons] at hrest ⊢
    rw [rootsOfJson, hread entry (List.mem_cons_self ..), hrest]

/-- Reading the object of a well-named graph gives its canonical form. -/
theorem ofJson_toJson {levels : Nat} {graph : Graph} (h : graph.IsWellNamed)
    (hnested : graph.IsNested levels) (hlevels : levels < Node.nodeDepth) :
    ofJson graph.toJson = .ok graph.canonical := by
  have hread : ∀ entry ∈ Named.sorted graph,
      Node.ofJson entry.2.toJson = .ok entry.2.canonical := by
    intro entry hentry
    have hmem := Named.mem_sorted.1 hentry
    have hdepth := hnested entry hmem
    exact Node.ofJsonAt_toJson (h.roots entry hmem) (by omega)
  rw [toJson_eq, ofJson, rootsOfJson_mapThings hread, canonical, Named.sorted_mapThings]

/-- The snapshot of a well-named graph is read as the canonical form of the graph. -/
theorem ofSnapshot_snapshot {levels : Nat} {graph : Graph} (h : graph.IsWellNamed)
    (hnested : graph.IsNested levels) (hlevels : levels < Node.nodeDepth) :
    ofSnapshot graph.snapshot = .ok graph.canonical := by
  have hdepth : levels + 2 ≤ Json.textDepth := by
    rw [Node.nodeDepth] at hlevels
    rw [Json.textDepth]
    omega
  have hread : Json.read Json.textDepth graph.toJson.pretty.toList = .ok graph.toJson :=
    Json.read_pretty ((isTextual_toJson h hnested).mono hdepth)
  rw [ofSnapshot, ofChars, snapshot, hread]
  simp only [ofJson_toJson h hnested hlevels, liftFault]

/-- **Snapshots are faithful.**  The snapshot of a graph is read as a graph that looks like it
and has the same snapshot, and two graphs have one snapshot exactly if they look alike,
whatever the order in which their names came. -/
theorem snapshot_faithful {a b : Graph} (ha : a.IsWellNamed) (hb : b.IsWellNamed)
    (hda : a.IsNested 60) (hdb : b.IsNested 60) :
    (∃ c, ofSnapshot a.snapshot = .ok c ∧ Alike c a ∧ c.snapshot = a.snapshot) ∧
      (a.snapshot = b.snapshot ↔ Alike a b) := by
  have hreada := ofSnapshot_snapshot ha hda (by decide)
  have hreadb := ofSnapshot_snapshot hb hdb (by decide)
  refine ⟨⟨a.canonical, hreada, canonical_alike ha, snapshot_canonical a⟩, ?_⟩
  constructor
  · intro h
    have hcanonical : a.canonical = b.canonical := by
      rw [h, hreadb] at hreada
      exact (Except.ok.inj hreada).symm
    exact (canonical_eq_iff ha hb).1 hcanonical
  · intro h
    rw [← snapshot_canonical a, ← snapshot_canonical b, canonical_eq_of_alike ha hb h]

/-- A graph with awkward texts. -/
def awkward : Graph :=
  [("type", .emptyUser),
   ("a\\\"", .branch .user
      [("\x00\n", .leaf ⟨"\u2028\t", "é", .done⟩), ("b", .emptySection)])]

/-- The same graph, with its names in another order. -/
def awkwardReversed : Graph :=
  [("a\\\"", .branch .user
      [("b", .emptySection), ("\x00\n", .leaf ⟨"\u2028\t", "é", .done⟩)]),
   ("type", .emptyUser)]

/-- Escapes, a null character and names out of order come back. -/
theorem snapshot_faithful_awkward :
    (∃ c, ofSnapshot awkward.snapshot = .ok c ∧ Alike c awkward ∧
        c.snapshot = awkward.snapshot) ∧
      (awkward.snapshot = awkwardReversed.snapshot ↔ Alike awkward awkwardReversed) := by
  have hsection : Node.WellNamed .emptySection := .branch (by decide) (by decide) (by simp)
  have huser : Node.WellNamed .emptyUser := .branch (by decide) (by decide) (by simp)
  have hawkward : awkward.IsWellNamed := by
    refine ⟨by decide, ?_⟩
    simp only [awkward, List.forall_mem_cons]
    refine ⟨huser, .branch (by decide) (by decide) ?_, by simp⟩
    simp only [List.forall_mem_cons]
    exact ⟨.leaf _, hsection, by simp⟩
  have hreversed : awkwardReversed.IsWellNamed := by
    refine ⟨by decide, ?_⟩
    simp only [awkwardReversed, List.forall_mem_cons]
    refine ⟨.branch (by decide) (by decide) ?_, huser, by simp⟩
    simp only [List.forall_mem_cons]
    exact ⟨hsection, .leaf _, by simp⟩
  exact snapshot_faithful hawkward hreversed (by decide) (by decide)

end TaskTree.Graph
