import TaskTree.Proofs.Graph.Operation

/-!
# Independent operations

An operation touches a few paths below its root: it changes nothing but what is at and below them
(`after_beside`), and whether it is refused, and what it makes of them, depends on nothing but what
is at and below them and on the way there (`fault?_along`, `after_along`).  So two operations commute
if no path that one touches leads to one that the other touches: whatever one of them changes is
nowhere on the ways of the other.
-/

namespace TaskTree

namespace Path

/-- No path of one list goes on after a path of the other, or is the same. -/
def Apart (ps qs : List Path) : Prop :=
  ∀ p ∈ ps, ∀ q ∈ qs, ¬ p <+: q ∧ ¬ q <+: p

instance (ps qs : List Path) : Decidable (Apart ps qs) :=
  inferInstanceAs (Decidable (∀ p ∈ ps, ∀ q ∈ qs, ¬ p <+: q ∧ ¬ q <+: p))

theorem Apart.symm {ps qs : List Path} (h : Apart ps qs) : Apart qs ps :=
  fun q hq p hp => ⟨(h p hp q hq).2, (h p hp q hq).1⟩

/-- What is at or below one list of paths is neither at or below one apart from it, nor on the way
to it. -/
theorem Apart.not_below {ps qs : List Path} (h : Apart ps qs) {p q r : Path} (hp : p ∈ ps)
    (hq : q ∈ qs) (hr : r <+: q ∨ q <+: r) : ¬ p <+: r := by
  intro hbegins
  obtain ⟨hpq, hqp⟩ := h p hp q hq
  rcases hr with hrq | hqr
  · exact hpq (hbegins.trans hrq)
  · exact (List.prefix_or_prefix_of_prefix hbegins hqr).elim hpq hqp

end Path

namespace Node.View

/-- The same is seen in two views on the way to some paths, and at and below them. -/
def SameAlong (v w : View) (paths : List Path) : Prop :=
  ∀ path ∈ paths, ∀ p, p <+: path ∨ path <+: p → v p = w p

variable {v w top : View} {path : Path} {paths : List Path}

/-- Views that differ at and below some paths only are the same along paths apart from these. -/
theorem SameBeside.along {ps qs : List Path} (h : SameBeside v w ps) (hapart : Path.Apart ps qs) :
    SameAlong v w qs := fun _ hq _ hr =>
  h _ fun _ hp => hapart.not_below hp hq hr

/-- Above the paths the same is seen. -/
theorem SameAlong.above (h : SameAlong v w paths) (hmem : path ∈ paths) {p : Path}
    (hp : p <+: path) : v p = w p := h path hmem p (.inl hp)

/-- At the paths the same is seen. -/
theorem SameAlong.at_path (h : SameAlong v w paths) (hmem : path ∈ paths) : v path = w path :=
  h.above hmem (List.prefix_refl path)

/-- Below the paths the same is seen. -/
theorem SameAlong.below (h : SameAlong v w paths) (hmem : path ∈ paths) (q : Path) :
    v (path ++ q) = w (path ++ q) := h path hmem _ (.inr (List.prefix_append path q))

/-- The same node put at any path keeps two views the same along others. -/
theorem SameAlong.graft (h : SameAlong v w paths) (path : Path) (top : View) :
    SameAlong (View.graft v path top) (View.graft w path top) paths := by
  intro other hmem p hp
  unfold View.graft
  split
  · rfl
  · exact h other hmem p hp

/-- Whether a branch stands at a path depends on what is seen there. -/
theorem isBranchAt_congr (h : v path = w path) : IsBranchAt v path ↔ IsBranchAt w path := by
  unfold IsBranchAt
  rw [h]

/-- Whether an item stands at a path depends on what is seen there. -/
theorem isItemAt_congr (h : v path = w path) : IsItemAt v path ↔ IsItemAt w path := by
  unfold IsItemAt
  rw [h]

/-- Whether a node can move depends on what is seen of it, of the destination and of the place
there. -/
theorem movable_congr {src dest : Path} (hsrc : v src = w src) (hdest : v dest = w dest)
    (hplace : v (landing src dest) = w (landing src dest)) :
    Movable v src dest ↔ Movable w src dest := by
  constructor
  · intro h
    exact ⟨h.nonempty, hsrc ▸ h.found, h.outside, (isBranchAt_congr hdest).1 h.under,
      h.free.imp_right hplace.symm.trans⟩
  · intro h
    exact ⟨h.nonempty, hsrc ▸ h.found, h.outside, (isBranchAt_congr hdest).2 h.under,
      h.free.imp_right hplace.trans⟩

/-- A node comes to stand below its destination. -/
theorem dest_prefix_landing (src dest : Path) : dest <+: landing src dest :=
  List.prefix_append ..

/-! What the operations change. -/

/-- Creating a node is seen at its path and below only. -/
theorem created_beside (v : View) (path : Path) (node : Node) :
    SameBeside v (v.created path node) [path] := by
  unfold created
  split
  · exact sameBeside_graft _ _ _
  · exact sameBeside_self _ _

/-- Toggling an item is seen at its path and below only. -/
theorem toggled_beside (v : View) (path : Path) : SameBeside v (v.toggled path) [path] := by
  unfold toggled
  split
  · exact sameBeside_graft _ _ _
  · exact sameBeside_self _ _

/-- Updating an item is seen where it stood and where it comes to stand. -/
theorem updated_beside (v : View) (path : Path) (item : Item) :
    SameBeside v (v.updated path item) [path, renamed path item.title] := by
  unfold updated
  split
  · exact (sameBeside_graft _ _ _).trans (sameBeside_graft _ _ _)
  · exact sameBeside_self _ _

/-- Removing a node is seen at its path and below only. -/
theorem archived_beside (v : View) (path : Path) : SameBeside v (v.archived path) [path] := by
  unfold archived
  split
  · exact sameBeside_graft _ _ _
  · exact sameBeside_self _ _

/-- Moving a node is seen where it stood and where it comes to stand. -/
theorem displaced_beside (v : View) (src dest : Path) :
    SameBeside v (v.displaced src dest) [src, landing src dest] := by
  unfold displaced
  split
  · next hmovable =>
    rw [moved, if_pos hmovable]
    exact (sameBeside_graft _ _ _).trans (sameBeside_graft _ _ _)
  · exact (archived_beside v src).mono (by simp)

/-! What the operations look at. -/

/-- Views that are the same along the path of a new node stay so. -/
theorem SameAlong.created (h : SameAlong v w paths) (hmem : path ∈ paths) (node : Node) :
    SameAlong (View.created v path node) (View.created w path node) paths := by
  have hunder := isBranchAt_congr (h.above hmem (List.dropLast_prefix path))
  unfold View.created
  simp only [hunder]
  split
  · exact h.graft _ _
  · exact h

/-- Views that are the same along the path of a toggled item stay so. -/
theorem SameAlong.toggled (h : SameAlong v w paths) (hmem : path ∈ paths) :
    SameAlong (View.toggled v path) (View.toggled w path) paths := by
  unfold View.toggled
  rw [h.at_path hmem]
  split
  · exact h.graft _ _
  · exact h

/-- Views that are the same along the path of an updated item stay so. -/
theorem SameAlong.updated (h : SameAlong v w paths) (hmem : path ∈ paths) (item : Item) :
    SameAlong (View.updated v path item) (View.updated w path item) paths := by
  have hitem := isItemAt_congr (h.at_path hmem)
  unfold View.updated
  simp only [hitem]
  split
  · exact (h.graft _ _).graft _ _
  · exact h

/-- Views that are the same along the path of a removed node stay so. -/
theorem SameAlong.archived (h : SameAlong v w paths) (hmem : path ∈ paths) :
    SameAlong (View.archived v path) (View.archived w path) paths := by
  unfold View.archived
  rw [h.at_path hmem]
  split
  · exact h.graft _ _
  · exact h

/-- Views that are the same along both ends of a move stay so. -/
theorem SameAlong.displaced {src dest : Path} (h : SameAlong v w paths) (hsrc : src ∈ paths)
    (hplace : landing src dest ∈ paths) :
    SameAlong (View.displaced v src dest) (View.displaced w src dest) paths := by
  have hmovable := movable_congr (h.at_path hsrc) (h.above hplace (dest_prefix_landing src dest))
    (h.at_path hplace)
  have hnode : (fun q => v (src ++ q)) = fun q => w (src ++ q) := funext (h.below hsrc)
  unfold View.displaced View.moved
  simp only [hmovable]
  split
  · rw [hnode]
    exact (h.graft _ _).graft _ _
  · exact h.archived hsrc

/-- What stands in the way of a path depends on what is seen on the way. -/
theorem obstacle?_congr (h : ∀ p, p <+: path → v p = w p) : v.obstacle? path = w.obstacle? path := by
  induction path generalizing v w with
  | nil => rw [obstacle?, obstacle?, h [] (List.prefix_refl _)]
  | cons segment rest ih =>
    have hbelow := @ih (fun q => v (segment :: q)) (fun q => w (segment :: q))
      fun q hq => h _ (List.cons_prefix_cons.2 ⟨rfl, hq⟩)
    rw [obstacle?, obstacle?, hbelow, h [] List.nil_prefix,
      h [segment] (List.cons_prefix_cons.2 ⟨rfl, List.nil_prefix⟩)]

/-- Why a node cannot be created depends on what is seen along its path. -/
theorem SameAlong.creationFault? (h : SameAlong v w paths) (hmem : path ∈ paths) (root : String) :
    View.creationFault? v root path = View.creationFault? w root path := by
  have hway := @obstacle?_congr v w path.dropLast fun p hp =>
    h.above hmem (hp.trans (List.dropLast_prefix path))
  unfold View.creationFault?
  rw [hway, h.above hmem List.nil_prefix]

/-- Why an item cannot be toggled depends on what is seen along its path. -/
theorem SameAlong.toggleFault? (h : SameAlong v w paths) (hmem : path ∈ paths) (root : String) :
    View.toggleFault? v root path = View.toggleFault? w root path := by
  unfold View.toggleFault?
  rw [h.at_path hmem]

/-- Why an item cannot be updated depends on what is seen along its path. -/
theorem SameAlong.updateFault? (h : SameAlong v w paths) (hmem : path ∈ paths)
    (root title : String) : View.updateFault? v root path title =
      View.updateFault? w root path title := by
  unfold View.updateFault?
  rw [h.at_path hmem, h.above hmem (List.dropLast_prefix path)]

/-- Why a root cannot be created depends on what is seen of it. -/
theorem SameAlong.rootFault? (h : SameAlong v w paths) (hmem : [] ∈ paths) (root : String) :
    View.rootFault? v root = View.rootFault? w root := by
  unfold View.rootFault?
  rw [h.at_path hmem]

/-- Why a node cannot be removed depends on what is seen along its path. -/
theorem SameAlong.removalFault? (h : SameAlong v w paths) (hmem : path ∈ paths) :
    View.removalFault? v path = View.removalFault? w path := by
  unfold View.removalFault?
  rw [h.at_path hmem]

/-- Why a node cannot move depends on what is seen along both ends. -/
theorem SameAlong.moveFault? {src dest : Path} (h : SameAlong v w paths) (hsrc : src ∈ paths)
    (hplace : landing src dest ∈ paths) :
    View.moveFault? v src dest = View.moveFault? w src dest := by
  have hpruned : SameAlong (v.prune src) (w.prune src) paths := h.graft src _
  unfold View.moveFault?
  rw [h.at_path hsrc, hpruned.at_path hplace, hpruned.above hplace (dest_prefix_landing src dest)]

end Node.View

namespace Operation

variable {v w : Node.View} {op op' : Operation}

/-- The paths that an operation touches. -/
def touched : Operation → List Path
  | .createRoot => [[]]
  | .create path _ | .toggleItem path | .delete path | .archive path => [path]
  | .updateItem path item => [path, Node.View.renamed path item.title]
  | .move src dest => [src, Node.View.landing src dest]

/-- **Operations change little.**  What is not at or below a path that an operation touches is seen
as before. -/
theorem after_beside (op : Operation) (root : String) (v : Node.View) :
    v.SameBeside (op.after root v) op.touched := by
  cases op with
  | createRoot => exact fun p hp => absurd List.nil_prefix (hp [] (List.mem_singleton_self []))
  | create path node => exact Node.View.created_beside v path node
  | move src dest => exact Node.View.displaced_beside v src dest
  | toggleItem path => exact Node.View.toggled_beside v path
  | updateItem path item => exact Node.View.updated_beside v path item
  | delete path => exact Node.View.archived_beside v path
  | archive path => exact Node.View.archived_beside v path

/-- **Operations look at little.**  Where the same is seen along the paths that an operation touches,
it makes the same of them. -/
theorem after_along (h : v.SameAlong w op.touched) (root : String) :
    (op.after root v).SameAlong (op.after root w) op.touched := by
  cases op with
  | createRoot =>
    have hroot := h.at_path (List.mem_singleton_self [])
    simp only [after, hroot]
    split
    · exact h
    · exact fun _ _ _ _ => rfl
  | create path node => exact h.created (List.mem_singleton_self path) node
  | move src dest => exact h.displaced (by simp [touched]) (by simp [touched])
  | toggleItem path => exact h.toggled (List.mem_singleton_self path)
  | updateItem path item => exact h.updated (by simp [touched]) item
  | delete path => exact h.archived (List.mem_singleton_self path)
  | archive path => exact h.archived (List.mem_singleton_self path)

/-- Where the same is seen along the paths that an operation touches, it is refused with one fault,
or done. -/
theorem fault?_along (h : v.SameAlong w op.touched) (root : String) :
    op.fault? root v = op.fault? root w := by
  cases op with
  | createRoot => exact h.rootFault? (List.mem_singleton_self []) root
  | create path node => exact h.creationFault? (List.mem_singleton_self path) root
  | move src dest => exact h.moveFault? (by simp [touched]) (by simp [touched])
  | toggleItem path => exact h.toggleFault? (List.mem_singleton_self path) root
  | updateItem path item => exact h.updateFault? (by simp [touched]) root item.title
  | delete path => exact h.removalFault? (List.mem_singleton_self path)
  | archive path => exact h.removalFault? (List.mem_singleton_self path)

/-- An operation sees nothing of one that is apart from it. -/
theorem along_after (hapart : Path.Apart op.touched op'.touched) (root : String) (v : Node.View) :
    v.SameAlong (op.after root v) op'.touched :=
  (op.after_beside root v).along hapart

/-- At and below what an operation touches, it alone decides what is seen, before or after one that
is apart from it. -/
theorem after_after_below (hapart : Path.Apart op.touched op'.touched) (root : String)
    (v : Node.View) {path p : Path} (hmem : path ∈ op.touched) (hp : path <+: p) :
    op'.after root (op.after root v) p = op.after root v p ∧
      op.after root (op'.after root v) p = op.after root v p := by
  constructor
  · refine (op'.after_beside root (op.after root v) p fun path' hmem' => ?_).symm
    exact hapart.symm.not_below hmem' hmem (.inr hp)
  · exact (after_along (along_after hapart.symm root v) root path hmem p (.inr hp)).symm

/-- What is seen below a root after two operations that are apart does not depend on their order. -/
theorem after_comm (hapart : Path.Apart op.touched op'.touched) (root : String) (v : Node.View) :
    op'.after root (op.after root v) = op.after root (op'.after root v) := by
  funext p
  by_cases hp : ∃ path ∈ op.touched, path <+: p
  · obtain ⟨path, hmem, hbegins⟩ := hp
    obtain ⟨hlast, hfirst⟩ := after_after_below hapart root v hmem hbegins
    rw [hlast, hfirst]
  · by_cases hp' : ∃ path ∈ op'.touched, path <+: p
    · obtain ⟨path, hmem, hbegins⟩ := hp'
      obtain ⟨hlast, hfirst⟩ := after_after_below hapart.symm root v hmem hbegins
      rw [hlast, hfirst]
    · have hbeside : ∀ path ∈ op.touched, ¬ path <+: p := fun path hmem hbegins =>
        hp ⟨path, hmem, hbegins⟩
      have hbeside' : ∀ path ∈ op'.touched, ¬ path <+: p := fun path hmem hbegins =>
        hp' ⟨path, hmem, hbegins⟩
      rw [← op'.after_beside root _ p hbeside', ← op.after_beside root _ p hbeside,
        ← op.after_beside root _ p hbeside, ← op'.after_beside root _ p hbeside']

end Operation

namespace Graph

variable {graph : Graph} {root root' : String} {op op' : Operation}

/-- Two operations do not come near each other: they are below different roots, or none of the paths
that one touches is on the way to one that the other touches, or the same. -/
def Independent (root : String) (op : Operation) (root' : String) (op' : Operation) : Prop :=
  root = root' → Path.Apart op.touched op'.touched

instance (root : String) (op : Operation) (root' : String) (op' : Operation) :
    Decidable (Independent root op root' op') :=
  inferInstanceAs (Decidable (root = root' → Path.Apart op.touched op'.touched))

theorem Independent.symm (h : Independent root op root' op') : Independent root' op' root op :=
  fun heq => (h heq.symm).symm

/-- It does not matter below which of two roots something is put first. -/
theorem put_comm {seen : View} {top top' : Node.View} (h : root ≠ root') :
    (seen.put root top).put root' top' = (seen.put root' top').put root top := by
  funext r
  by_cases hr : root = r
  · subst hr
    rw [put_same, put_of_ne (Ne.symm h), put_same]
  · rw [put_of_ne hr]
    by_cases hr' : root' = r
    · subst hr'
      rw [put_same, put_same]
    · rw [put_of_ne hr', put_of_ne hr', put_of_ne hr]

/-- An operation comes to the same end before and after one that is independent of it. -/
theorem fault?_perform_perform (h : Independent root op root' op') (graph : Graph) :
    ((graph.perform root op).graph.perform root' op').fault? =
      (graph.perform root' op').fault? := by
  rw [(perform_eq _ root' op').1, (perform_eq graph root' op').1, (perform_eq graph root op).2]
  by_cases hroot : root = root'
  · subst hroot
    rw [put_same]
    exact (Operation.fault?_along (Operation.along_after (h rfl) root _) root).symm
  · rw [put_of_ne hroot]

/-- **Independent operations commute.**  In either order each of them comes to the same end, with
the same fault if it is refused, and what they leave is equal as nested mappings.  The operations may
be moves that lose their node. -/
theorem independent_commute (h : Independent root op root' op') (graph : Graph) :
    let first := graph.perform root op
    let second := graph.perform root' op'
    (first.graph.perform root' op').fault? = second.fault? ∧
      (second.graph.perform root op).fault? = first.fault? ∧
      Alike (first.graph.perform root' op').graph (second.graph.perform root op).graph := by
  refine ⟨fault?_perform_perform h graph, fault?_perform_perform h.symm graph, fun r p => ?_⟩
  rw [(perform_eq (graph.perform root op).graph root' op').2,
    (perform_eq (graph.perform root' op').graph root op).2, (perform_eq graph root op).2,
    (perform_eq graph root' op').2]
  by_cases hroot : root = root'
  · subst hroot
    rw [put_same, put_same, put_put, put_put, Operation.after_comm (h rfl)]
  · rw [put_of_ne hroot, put_of_ne (Ne.symm hroot), put_comm hroot]

/-- A move that loses its node, and an item that takes the place of a section beside it. -/
theorem independent_commute_losing :
    let graph : Graph := [("r", .branch .user [
      ("a", .branch .group [("x", .emptySection), ("y", .emptySection)]),
      ("b", .branch .group [("c", .leaf ⟨"c", "", .notDone⟩), ("d-e", .emptySection)])])]
    let op : Operation := .move ["a", "x"] ["gone"]
    let op' : Operation := .updateItem ["b", "c"] ⟨"d e", "", .done⟩
    let first := graph.perform "r" op
    let second := graph.perform "r" op'
    Independent "r" op "r" op' ∧ first.fault? = some .destinationMissing ∧
      (second.graph.perform "r" op).fault? = first.fault? ∧
      (first.graph.perform "r" op').fault? = none ∧
      (second.graph.perform "r" op).graph = [("r", .branch .user [
        ("a", .branch .group [("y", .emptySection)]),
        ("b", .branch .group [("d-e", .leaf ⟨"d e", "", .done⟩)])])] ∧
      Alike (first.graph.perform "r" op').graph (second.graph.perform "r" op).graph := by
  intro graph op op' first second
  have hindependent : Independent "r" op "r" op' := by decide
  obtain ⟨hsecond, hfirst, halike⟩ := independent_commute hindependent graph
  exact ⟨hindependent, rfl, hfirst, hsecond.trans rfl, rfl, halike⟩

end Graph

end TaskTree
