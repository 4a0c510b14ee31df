import TaskTree.Proofs.Graph.Refusal

/-!
# Creation and removal

A node is created at a path over what was there, and removed with all that is below it.  Both replace
what stands at the path and nothing else (`replacedAt_create`, `replacedAt_delete`), both are refused
without a trace, and a node that was removed can be created again where it stood
(`ReplacedAt.create_again`).  `create_and_delete` puts this together with the reasons of a refusal.
-/

namespace TaskTree.Graph

variable {graph rest after : Graph} {root : String} {path : Path} {node : Node}

/-- A created node is found. -/
theorem get?_of_create (hok : graph.create root path node = .ok after) :
    after.get? root path = some node := by
  unfold create at hok
  split at hok
  · cases hok
  · next name hlast =>
    split at hok
    · cases hok
    · split at hok
      · cases hok
      · next top hfound =>
        split at hok
        · cases hok
        · next top' htop =>
          cases hok
          obtain ⟨above, rfl⟩ := List.getLast?_eq_some_iff.1 hlast
          rw [List.dropLast_concat] at htop
          rw [Graph.get?, Named.find?_insert_self, Option.bind_some]
          exact Node.get?_of_insert htop

/-- Creating puts the node at its path and changes nothing elsewhere. -/
theorem replacedAt_create (hok : graph.create root path node = .ok after) :
    ReplacedAt graph after root path (some node) := by
  have hview := graph.view_create root path node
  rw [hok] at hview
  have hcan : path ≠ [] ∧ (∀ segment ∈ path, Path.IsLegal segment) ∧
      (graph.view root).IsBranchAt path.dropLast := by
    apply Decidable.byContradiction
    intro hnot
    obtain ⟨fault, hfault⟩ := create_refused hnot node
    rw [hok] at hfault
    cases hfault
  rw [Node.View.created, if_pos hcan] at hview
  exact replacedAt_of_get? (get?_of_create hok) hview

/-- What can be removed is a node below the root, and nothing else is removed with it than what is
below it. -/
theorem replacedAt_delete (hne : path ≠ []) (h : graph.get? root path = some node) :
    ∃ rest, graph.take? root path = some (node, rest) ∧ graph.delete root path = .ok rest ∧
      ReplacedAt graph rest root path none := by
  obtain ⟨rest, htake, hview⟩ := take?_of_get? hne h
  refine ⟨rest, htake, by simp only [delete, htake], ?_⟩
  refine replacedAt_of_get? (view_eq_none_iff.1 ?_) hview
  rw [hview, put_same, Node.View.prune, Node.graft_path]

/-- Nothing is taken away at the root itself, nor where nothing stands. -/
theorem take?_of_missing (h : path = [] ∨ graph.get? root path = none) :
    graph.take? root path = none := by
  rcases h with rfl | hnone
  · exact take?_nil graph root
  · exact take?_of_get?_none hnone

/-- Nothing is deleted at the root itself or where no node is. -/
theorem delete_refused (h : path = [] ∨ graph.get? root path = none) :
    graph.delete root path = .error .nodeMissing := by
  simp only [delete, take?_of_missing h]

/-- What was taken away from a legal path can be put there again, and then the graph is as before. -/
theorem ReplacedAt.create_again (h : ReplacedAt graph rest root path none) (hne : path ≠ [])
    (hlegal : ∀ segment ∈ path, Path.IsLegal segment) (hold : graph.get? root path = some node) :
    ∃ again, rest.create root path node = .ok again ∧ Alike again graph := by
  obtain ⟨above, name, rfl⟩ := Path.exists_above hne
  obtain ⟨again, hok, -⟩ := create_of_branch hlegal (h.isBranchAt_above hold) node
  exact ⟨again, hok, h.restore (replacedAt_create hok) hold⟩

/-- An item stands at the end of a path or on the way there. -/
def MeetsItem (graph : Graph) (root : String) (path : Path) : Prop :=
  ∃ p item, p <+: path ∧ graph.get? root p = some (.leaf item)

/-- A graph meets an item exactly where its view does. -/
theorem meetsItem_iff : graph.MeetsItem root path ↔ (graph.view root).meetsItem path = true := by
  rw [Node.View.meetsItem_iff]
  constructor
  · intro hmeets
    obtain ⟨p, item, hp, hget⟩ := hmeets
    exact ⟨p, hp, isItemAt_iff.2 ⟨item, hget⟩⟩
  · intro hmeets
    obtain ⟨p, hp, hitem⟩ := hmeets
    obtain ⟨item, hget⟩ := isItemAt_iff.1 hitem
    exact ⟨p, item, hp, hget⟩

/-- No item is met on the way to a branch. -/
theorem not_meetsItem_of_branch (h : (graph.view root).IsBranchAt path) :
    ¬ graph.MeetsItem root path := by
  intro hmeets
  obtain ⟨p, item, ⟨q, rfl⟩, hget⟩ := hmeets
  obtain ⟨kind, children, hbranch⟩ := get?_of_branch h
  rw [get?_append, hget, Option.bind_some] at hbranch
  cases q with
  | nil => cases hbranch
  | cons segment rest => cases hbranch

/-- What putting a node at a path is refused for, told by what stands on the way. -/
theorem creation?_eq (graph : Graph) (root : String) (path : Path) :
    (¬ Node.View.IsFit path ∨ graph.MeetsItem root path.dropLast →
      (graph.view root).creation? path = some .invalidOperation) ∧
    (Node.View.IsFit path → ¬ graph.MeetsItem root path.dropLast →
      (graph.view root).creation? path =
        if graph.get? root path.dropLast = none then some .notFound else none) := by
  unfold Node.View.creation?
  refine ⟨fun hrefused => ?_, fun hfit hmeets => ?_⟩
  · split
    · next hfit =>
      have hmeets := hrefused.resolve_left fun hnot => hnot hfit
      cases hseen : graph.view root path.dropLast with
      | none => simp [meetsItem_iff.1 hmeets]
      | some face =>
        cases face with
        | leaf item => rfl
        | branch kind => exact absurd hmeets (not_meetsItem_of_branch ⟨kind, hseen⟩)
    · rfl
  · rw [if_pos hfit]
    cases hget : graph.get? root path.dropLast with
    | none =>
      have hclear := Bool.eq_false_iff.2 (mt meetsItem_iff.2 hmeets)
      simp [view_eq_none_iff.2 hget, hclear]
    | some parent =>
      cases parent with
      | leaf item => exact absurd ⟨_, item, List.prefix_refl _, hget⟩ hmeets
      | branch kind children => simp [face_of_get? hget, Node.face]

/-- **Creation and removal, exactly.**  A node is created at a path unless the path is empty or has
an illegal name, or an item is met on the way (an invalid operation), or the root or another node on
the way is missing (not found).  Then the node is there with all that is below it, over what was
there.  A path is removed unless it is empty or leads nowhere (not found); then exactly the paths at
and below it lead nowhere any more.  A refused operation changes nothing, what is beside the path
never changes, and what was removed from a legal path can be created there again, which brings back
the graph. -/
theorem create_and_delete (graph : Graph) (root : String) (path : Path) (node : Node) :
    let created := Change.ofExcept graph (graph.create root path node)
    let deleted := Change.ofExcept graph (graph.delete root path)
    (¬ Node.View.IsFit path ∨ graph.MeetsItem root path.dropLast →
      created.IsRefusal .invalidOperation graph) ∧
    (Node.View.IsFit path → ¬ graph.MeetsItem root path.dropLast →
      graph.get? root path.dropLast = none → created.IsRefusal .notFound graph) ∧
    (Node.View.IsFit path → ¬ graph.MeetsItem root path.dropLast →
      graph.get? root path.dropLast ≠ none →
      created.fault? = none ∧ graph.ReplacedAt created.graph root path (some node)) ∧
    (path = [] ∨ graph.get? root path = none → deleted.IsRefusal .notFound graph) ∧
    (∀ old, path ≠ [] → graph.get? root path = some old →
      deleted.fault? = none ∧ graph.ReplacedAt deleted.graph root path none ∧
      (∀ r p, deleted.graph.get? r p = none ↔ (r = root ∧ path <+: p) ∨ graph.get? r p = none) ∧
      ((∀ segment ∈ path, Path.IsLegal segment) →
        ∃ again, deleted.graph.create root path old = .ok again ∧ Alike again graph)) := by
  intro created deleted
  have hkind : created.fault?.map Fault.kind = (graph.view root).creation? path :=
    graph.kind_create root path node
  obtain ⟨hinvalid, hfree⟩ := creation?_eq graph root path
  refine ⟨fun hrefused => ?_, fun hfit hmeets hmissing => ?_, fun hfit hmeets hthere => ?_,
    fun hrefused => ?_, fun old hne hget => ?_⟩
  · exact isRefusal_ofExcept_iff.2 (hkind.trans (hinvalid hrefused))
  · rw [hfree hfit hmeets, if_pos hmissing] at hkind
    exact isRefusal_ofExcept_iff.2 hkind
  · rw [hfree hfit hmeets, if_neg hthere] at hkind
    have hnone : created.fault? = none := Option.map_eq_none_iff.1 hkind
    exact ⟨hnone, replacedAt_create (ok_of_fault?_none hnone)⟩
  · have hdeleted : deleted = ⟨graph, some .nodeMissing⟩ :=
      ofExcept_of_error (delete_refused hrefused)
    rw [hdeleted]
    exact ⟨rfl, rfl⟩
  · obtain ⟨rest, -, hok, hreplaced⟩ := replacedAt_delete hne hget
    have hdeleted : deleted = ⟨rest, none⟩ := ofExcept_of_ok hok
    rw [hdeleted]
    exact ⟨rfl, hreplaced, fun r p => hreplaced.get?_eq_none_iff,
      fun hlegal => hreplaced.create_again hne hlegal hget⟩

end TaskTree.Graph
