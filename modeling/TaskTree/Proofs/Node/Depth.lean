import TaskTree.Proofs.Json.Nesting
import TaskTree.Proofs.Node.Canonical

/-!
# How deep a node is

The depth of a node is the length of the longest path on which something is seen
(`depth_le_iff`), and the number of levels that reading its object takes.  With more levels than
that the node comes back (`ofJsonAt_toJson`); without them it is refused as too deep
(`ofJsonAt_of_deep`), which is the only fault that the object of a well-named node can have.

It is the nesting of the object, too (`isTextual_toJson_iff`): that a node is shallow enough for its
object to be written and read is the same as that the object is, so no other bound is needed.
-/

namespace TaskTree.Node

/-- A row is as deep as its deepest child and one more. -/
theorem depthBelow_le_iff {children : List (String × Node)} {n : Nat} :
    depthBelow children ≤ n ↔ ∀ entry ∈ children, entry.2.depth < n := by
  induction children with
  | nil => simp [depthBelow]
  | cons first rest ih =>
    rw [depthBelow, Nat.max_le, ih, List.forall_mem_cons, Nat.succ_le_iff]

/-- The deepest of the children makes the depth of their row. -/
theorem exists_depthBelow_eq {children : List (String × Node)} (h : 0 < depthBelow children) :
    ∃ entry ∈ children, depthBelow children = entry.2.depth + 1 := by
  induction children with
  | nil => cases h
  | cons first rest ih =>
    rw [depthBelow] at h ⊢
    rcases Nat.lt_or_ge first.2.depth (depthBelow rest) with hless | hmore
    · obtain ⟨entry, hmem, hdepth⟩ := ih (Nat.zero_lt_of_lt hless)
      exact ⟨entry, List.mem_cons_of_mem _ hmem, by omega⟩
    · exact ⟨first, List.mem_cons_self .., by omega⟩

/-- Some path leads as far down a well-named node as the node is deep. -/
theorem exists_view_of_depth {node : Node} (h : WellNamed node) :
    ∃ path, (node.view path).isSome ∧ path.length = node.depth := by
  induction h with
  | leaf item => exact ⟨[], rfl, rfl⟩
  | @branch kind children distinct unreserved below ih =>
    rw [depth]
    rcases Nat.eq_zero_or_pos (depthBelow children) with hbare | hdeep
    · exact ⟨[], rfl, hbare.symm⟩
    · obtain ⟨entry, hmem, hdepth⟩ := exists_depthBelow_eq hdeep
      obtain ⟨path, hseen, hlength⟩ := ih entry hmem
      refine ⟨entry.1 :: path, ?_, ?_⟩
      · rw [view_branch_cons, Named.find?_of_mem distinct hmem, Option.bind_some]
        exact hseen
      · rw [List.length_cons, hlength, hdepth]

/-- A well-named node is as deep as the longest path on which something is seen of it. -/
theorem depth_le_iff {node : Node} (h : WellNamed node) {n : Nat} :
    node.depth ≤ n ↔ ∀ path, (node.view path).isSome → path.length ≤ n := by
  constructor
  · intro hle path hseen
    exact Nat.le_trans (length_le_depth hseen) hle
  · intro hpaths
    obtain ⟨path, hseen, hlength⟩ := exists_view_of_depth h
    exact hlength ▸ hpaths path hseen

/-- Well-named nodes that look alike are equally deep. -/
theorem Alike.depth_eq {a b : Node} (h : Alike a b) (ha : WellNamed a) (hb : WellNamed b) :
    a.depth = b.depth := by
  apply Nat.le_antisymm
  · refine (depth_le_iff ha).2 fun path hseen => length_le_depth ?_
    rwa [← h path]
  · refine (depth_le_iff hb).2 fun path hseen => length_le_depth ?_
    rwa [h path]

/-! The object of a node. -/

/-- A node whose snapshot fits some levels is less deep than they are. -/
theorem depth_lt_of_isTextual {node : Node} {n : Nat} (h : Json.IsTextual n node.toJson) :
    node.depth < n := by
  induction node using byChildren generalizing n with
  | leaf item =>
    rw [toJson, itemJson] at h
    cases h with
    | object distinct below => exact Nat.succ_pos _
  | branch kind children ih =>
    rw [toJson, childrenJson_eq, Named.sorted_mapThings] at h
    cases h with
    | @object n _ distinct below =>
      rw [depth, Nat.lt_succ_iff]
      refine depthBelow_le_iff.2 fun entry hmem => ih entry hmem (below (entry.1, _) ?_)
      exact List.mem_cons_of_mem _ (List.mem_map.2 ⟨entry, Named.mem_sorted.2 hmem, rfl⟩)

/-- **The object of a well-named node is nested as deep as the node.** -/
theorem isTextual_toJson_iff {node : Node} (h : WellNamed node) {n : Nat} :
    Json.IsTextual n node.toJson ↔ node.depth < n :=
  ⟨depth_lt_of_isTextual, fun hn => (isTextual_toJson h).mono hn⟩

/-- If some children are refused, and all others are read, then so are the children. -/
theorem childrenOfJson_refused {n : Nat} {fault : Fault} {children : List (String × Node)}
    (hname : ∀ entry ∈ children, entry.1 ≠ Path.reserved)
    (hread : ∀ entry ∈ children, ofJsonAt n entry.2.toJson = .ok entry.2.canonical ∨
      ofJsonAt n entry.2.toJson = .error fault)
    (hrefused : ∃ entry ∈ children, ofJsonAt n entry.2.toJson = .error fault) :
    childrenOfJson n (Named.mapThings toJson children) = .error fault := by
  induction children with
  | nil =>
    obtain ⟨entry, hmem, -⟩ := hrefused
    cases hmem
  | cons first rest ih =>
    simp only [Named.mapThings, List.map_cons] at ih ⊢
    rw [childrenOfJson, if_neg (hname first (List.mem_cons_self ..))]
    rcases hread first (List.mem_cons_self ..) with hfirst | hfirst
    · have hlater : ∃ entry ∈ rest, ofJsonAt n entry.2.toJson = .error fault := by
        obtain ⟨entry, hmem, hentry⟩ := hrefused
        rcases List.mem_cons.1 hmem with rfl | hmem
        · cases hfirst.symm.trans hentry
        · exact ⟨entry, hmem, hentry⟩
      simp only [hfirst, ih (fun e he => hname e (List.mem_cons_of_mem _ he))
        (fun e he => hread e (List.mem_cons_of_mem _ he)) hlater]
    · simp only [hfirst]

/-- **Deep nodes are refused.**  The object of a well-named node is refused as too deep, if there
are not more levels left than the node is deep. -/
theorem ofJsonAt_of_deep {node : Node} (h : WellNamed node) {n : Nat} (hn : n ≤ node.depth) :
    ofJsonAt n node.toJson = .error .graphTooDeep := by
  induction h generalizing n with
  | leaf item =>
    obtain rfl := Nat.le_zero.1 hn
    rfl
  | @branch kind children distinct unreserved below ih =>
    cases n with
    | zero => rw [ofJsonAt]
    | succ n =>
      have hname : ∀ entry ∈ Named.sorted children, entry.1 ≠ Path.reserved := by
        intro entry hentry heq
        exact unreserved (List.mem_map.2 ⟨entry, Named.mem_sorted.1 hentry, heq⟩)
      have hread : ∀ entry ∈ Named.sorted children,
          ofJsonAt n entry.2.toJson = .ok entry.2.canonical ∨
            ofJsonAt n entry.2.toJson = .error .graphTooDeep := by
        intro entry hentry
        have hmem := Named.mem_sorted.1 hentry
        rcases Nat.lt_or_ge entry.2.depth n with hless | hmore
        · exact .inl (ofJsonAt_toJson (below entry hmem) hless)
        · exact .inr (ih entry hmem hmore)
      have hrefused : ∃ entry ∈ Named.sorted children,
          ofJsonAt n entry.2.toJson = .error .graphTooDeep := by
        rw [depth] at hn
        obtain ⟨entry, hmem, hdepth⟩ := exists_depthBelow_eq (Nat.zero_lt_of_lt hn)
        exact ⟨entry, Named.mem_sorted.2 hmem, ih entry hmem (by omega)⟩
      rw [toJson, childrenJson_eq, Named.sorted_mapThings, ofJsonAt, shapeOf_branch]
      simp only
      rw [childrenOfJson, if_pos (by rfl), childrenOfJson_refused hname hread hrefused]

end TaskTree.Node
