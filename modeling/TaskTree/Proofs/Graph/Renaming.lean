import TaskTree.Proofs.Graph.Refusal

/-!
# Replacing an item

An item is replaced and comes to stand under the name of its new title in one step.  The name is made
of the title so that only two titles have no legal name (`isLegal_nameOfTitle_iff`), and it is looked
at before anything changes.  The old name and the new one may be the same, and another node may stand
under the new one: it goes, with all that is below it.
-/

namespace TaskTree

namespace Path

/-- The character of a name for a character of a title. -/
private def nameChar (c : Char) : Char :=
  if c = separator ∨ c = ' ' then '-' else c

private theorem nameOfTitle_eq (title : String) :
    nameOfTitle title = String.ofList (title.toList.map nameChar) := rfl

/-- No character of a name is the separator. -/
private theorem nameChar_ne_separator (c : Char) : nameChar c ≠ separator := by
  unfold nameChar
  split
  · decide
  · next h => exact fun heq => h (.inl heq)

/-- A name without dashes is the title itself. -/
private theorem map_nameChar_of_undashed {cs : List Char} (h : '-' ∉ cs.map nameChar) :
    cs.map nameChar = cs := by
  refine (List.map_congr_left fun c hc => ?_).trans (List.map_id cs)
  have hdash : nameChar c ≠ '-' := fun heq => h (heq ▸ List.mem_map_of_mem hc)
  unfold nameChar at hdash ⊢
  split
  · next hreplaced => exact absurd (if_pos hreplaced) hdash
  · rfl

/-- **Titles with a name.**  Every title has a legal name but the empty one and the reserved word. -/
theorem isLegal_nameOfTitle_iff {title : String} :
    IsLegal (nameOfTitle title) ↔ title ≠ "" ∧ title ≠ reserved := by
  constructor
  · intro hlegal
    refine ⟨fun hempty => hlegal.nonempty ?_, fun hreserved => hlegal.unreserved ?_⟩
    · rw [hempty]
      rfl
    · rw [hreserved]
      decide
  · intro htitle
    refine ⟨fun hempty => htitle.1 ?_, fun hdotted => ?_, fun hreserved => htitle.2 ?_⟩
    · have hchars := congrArg String.toList hempty
      rw [nameOfTitle_eq, String.toList_ofList, String.toList_empty, List.map_eq_nil_iff] at hchars
      exact String.toList_eq_nil_iff.1 hchars
    · rw [nameOfTitle_eq, String.toList_ofList] at hdotted
      obtain ⟨c, -, heq⟩ := List.mem_map.1 hdotted
      exact nameChar_ne_separator c heq
    · have hchars := congrArg String.toList hreserved
      rw [nameOfTitle_eq, String.toList_ofList] at hchars
      have hundashed : '-' ∉ title.toList.map nameChar := by
        rw [hchars]
        decide
      rw [map_nameChar_of_undashed hundashed] at hchars
      exact String.toList_inj.1 hchars

end Path

theorem Node.View.renamed_concat (above : Path) (name title : String) :
    renamed (above ++ [name]) title = above ++ [Path.nameOfTitle title] := by
  rw [renamed, List.dropLast_concat]

namespace Graph

variable {graph : Graph} {root : String} {path : Path} {item : Item}

/-- There is nothing at a path that could be replaced: it is the root itself, or it leads to no
place, or to one below a branch where nothing stands. -/
def PassesOver (graph : Graph) (root : String) (path : Path) : Prop :=
  path = [] ∨ graph.get? root path.dropLast = none ∨
    (graph.view root).IsBranchAt path.dropLast ∧ graph.get? root path = none

/-- The place is below an item, or no item stands there, or the title has no name. -/
def RefusesItem (graph : Graph) (root : String) (path : Path) (title : String) : Prop :=
  (graph.view root).IsItemAt path.dropLast ∨ ¬ (graph.view root).IsItemAt path ∨
    title = "" ∨ title = Path.reserved

/-- Where nothing could be replaced, nothing is done. -/
theorem updateItem_of_passesOver (h : graph.PassesOver root path) (replacement : Node) :
    graph.updateItem root path replacement = .ok graph := by
  by_cases hne : path = []
  · rw [hne]
    rfl
  · obtain ⟨above, name, rfl⟩ := Path.exists_above hne
    have hplaces := h.resolve_left hne
    rw [List.dropLast_concat] at hplaces
    unfold updateItem
    rw [List.getLast?_concat, List.dropLast_concat]
    rcases hplaces with hnone | ⟨hunder, hnone⟩
    · exact alter_of_get?_none hnone
    · obtain ⟨kind, children, hget⟩ := get?_of_branch hunder
      rw [get?_child hget] at hnone
      exact alter_of_same hget (by simp only [Node.renameItem, hnone])

/-- What the replacement of an item is refused for, if it is not passed over. -/
theorem update?_eq (hfound : ¬ graph.PassesOver root path) (title : String) :
    (graph.RefusesItem root path title →
      (graph.view root).update? path title = some .invalidOperation) ∧
    (¬ graph.RefusesItem root path title → (graph.view root).update? path title = none) := by
  unfold PassesOver at hfound
  rw [not_or, not_or] at hfound
  obtain ⟨hne, hparent, htarget⟩ := hfound
  obtain ⟨above, name, rfl⟩ := Path.exists_above hne
  unfold RefusesItem Node.View.update?
  rw [if_neg hne]
  rw [List.dropLast_concat] at hparent htarget ⊢
  cases hseen : graph.view root above with
  | none => exact absurd (view_eq_none_iff.1 hseen) hparent
  | some face =>
    cases face with
    | leaf item =>
      have hitem : (graph.view root).IsItemAt above := ⟨item, hseen⟩
      exact ⟨fun _ => rfl, fun hnot => absurd (.inl hitem) hnot⟩
    | branch kind =>
      have hunder : (graph.view root).IsBranchAt above := ⟨kind, hseen⟩
      simp only [hunder.not_isItemAt, false_or]
      cases hthere : graph.view root (above ++ [name]) with
      | none => exact absurd ⟨hunder, view_eq_none_iff.1 hthere⟩ htarget
      | some face =>
        cases face with
        | branch kind' =>
          have hbranch : (graph.view root).IsBranchAt (above ++ [name]) := ⟨kind', hthere⟩
          exact ⟨fun _ => rfl, fun hnot => absurd (.inl hbranch.not_isItemAt) hnot⟩
        | leaf item =>
          have hitem : (graph.view root).IsItemAt (above ++ [name]) := ⟨item, hthere⟩
          have hname : (title = "" ∨ title = Path.reserved) ↔
              ¬ Path.IsLegal (Path.nameOfTitle title) := by
            rw [Path.isLegal_nameOfTitle_iff, Decidable.not_and_iff_not_or_not, Decidable.not_not,
              Decidable.not_not]
          simp only [hitem, not_true_eq_false, false_or, hname, Decidable.not_not]
          exact ⟨fun hrefused => if_neg hrefused, fun hlegal => if_pos hlegal⟩

/-- What replacing an item leaves to be found under its new name, and under the old one. -/
theorem updateItem_of_fit (hfound : ¬ graph.PassesOver root path)
    (hfit : ¬ graph.RefusesItem root path item.title) :
    ∃ after, graph.updateItem root path (.leaf item) = .ok after ∧
      after.view = graph.view.put root (((graph.view root).prune path).graft
        (Node.View.renamed path item.title) (Node.leaf item).view) := by
  have hkind := graph.kind_updateItem root path item
  rw [(update?_eq hfound item.title).2 hfit] at hkind
  have hok := ok_of_fault?_none (Option.map_eq_none_iff.1 hkind)
  refine ⟨_, hok, ?_⟩
  unfold RefusesItem at hfit
  rw [not_or, not_or, Decidable.not_not, not_or] at hfit
  obtain ⟨-, hitem, htitle⟩ := hfit
  have hcan : path ≠ [] ∧ (graph.view root).IsItemAt path ∧
      Path.IsLegal (Path.nameOfTitle item.title) :=
    ⟨fun hnil => hfound (.inl hnil), hitem, Path.isLegal_nameOfTitle_iff.2 htitle⟩
  rw [view_updateItem, Node.View.updated, if_pos hcan]

/-- **Replacing an item, exactly.**  Where nothing stands that could be replaced, nothing is done.
Below an item, for a section, or with a title that is empty or the reserved word, the replacement is
refused and changes nothing.  In every other case, whatever the title, it is done: the new item, and
nothing else, stands under the name of its title, over whatever stood there with all that was below
it; the old name leads nowhere any more unless it is the new one; and what is neither at or below the
old path nor at or below the new one is as before. -/
theorem updateItem_outcomes (graph : Graph) (root : String) (path : Path) (item : Item) :
    let change := Change.ofExcept graph (graph.updateItem root path (.leaf item))
    let place := Node.View.renamed path item.title
    (graph.PassesOver root path → change = ⟨graph, none⟩) ∧
    (¬ graph.PassesOver root path → graph.RefusesItem root path item.title →
      change.IsRefusal .invalidOperation graph) ∧
    (¬ graph.PassesOver root path → ¬ graph.RefusesItem root path item.title →
      change.fault? = none ∧
      (∀ q, change.graph.get? root (place ++ q) = (Node.leaf item).get? q) ∧
      (place ≠ path → change.graph.get? root path = none) ∧
      graph.AlikeBeside change.graph root [path, place]) := by
  intro change place
  refine ⟨fun hpassed => ?_, fun hfound hrefused => ?_, fun hfound hfit => ?_⟩
  · exact ofExcept_of_ok (updateItem_of_passesOver hpassed (.leaf item))
  · refine isRefusal_ofExcept_iff.2 ?_
    rw [kind_updateItem, (update?_eq hfound item.title).1 hrefused]
  · obtain ⟨after, hok, hview⟩ := updateItem_of_fit hfound hfit
    have hchange : change = ⟨after, none⟩ := ofExcept_of_ok hok
    rw [hchange]
    have hroot := congrFun hview root
    rw [put_same] at hroot
    have hnew : after.get? root place = some (.leaf item) := by
      refine get?_of_item ?_
      rw [hroot, Node.graft_path]
      rfl
    refine ⟨rfl, fun q => ?_, fun hmoved => ?_, ?_⟩
    · rw [get?_append, hnew, Option.bind_some]
    · obtain ⟨above, name, rfl⟩ := Path.exists_above fun hnil => hfound (.inl hnil)
      have hplace : place = above ++ [Path.nameOfTitle item.title] :=
        Node.View.renamed_concat above name item.title
      have hsibling : ¬ place <+: above ++ [name] := by
        rw [hplace]
        intro hbegins
        exact hmoved (by rw [hplace, Path.eq_of_prefix_sibling hbegins])
      rw [← view_eq_none_iff, hroot, Node.graft_elsewhere hsibling, Node.View.prune,
        Node.graft_path]
    · exact alikeBeside_of_put hview
        ((Node.View.sameBeside_graft _ _ _).trans (Node.View.sameBeside_graft _ _ _))

end Graph

end TaskTree
