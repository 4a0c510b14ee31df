import TaskTree.Proofs.Graph.Execute

/-!
# What stands at a place

An operation puts a node at a place, with all that is below it, or takes one away.  Beside the place
the same is seen as before (`AlikeBeside`); at it stands the very node that was put there, which is
more than can be seen.  `ReplacedAt` says both, and two of them undo each other when the first node
comes back (`ReplacedAt.restore`).
-/

namespace TaskTree

namespace Node

@[simp] theorem get?_nil (node : Node) : node.get? [] = some node := by
  cases node <;> rfl

theorem alter_nil (change : Node → Except Fault Node) (node : Node) :
    node.alter change [] = change node := by
  cases node <;> rfl

/-- What was put under a name is found there, with what is below it. -/
theorem get?_branch_insert (kind : BranchKind) (children : Named Node) (name : String)
    (child : Node) (q : Path) :
    (Node.branch kind (Named.insert name child children)).get? (name :: q) = child.get? q := by
  simp only [get?, Named.find?_insert_self]

/-- A node that was put at the end of a path is found there. -/
theorem get?_of_insert {new node node' : Node} {name : String} {path : Path}
    (hok : insert new name node path = .ok node') : node'.get? (path ++ [name]) = some new := by
  induction path generalizing node node' with
  | nil =>
    cases node with
    | leaf item => cases hok
    | branch kind children =>
      cases hok
      rw [List.nil_append, get?_branch_insert, get?_nil]
  | cons segment rest ih =>
    cases node with
    | leaf item => cases hok
    | branch kind children =>
      cases hfound : Named.find? segment children with
      | none => simp only [insert, hfound, reduceCtorEq] at hok
      | some child =>
        cases hchild : insert new name child rest with
        | error fault => simp only [insert, hfound, hchild, reduceCtorEq] at hok
        | ok child' =>
          simp only [insert, hfound, hchild] at hok
          cases hok
          rw [List.cons_append, get?_branch_insert]
          exact ih hchild

/-- A node that was altered is found where it stood. -/
theorem get?_of_alter {change : Node → Except Fault Node} {node node' sub sub' : Node}
    {path : Path} (h : node.get? path = some sub) (hc : change sub = .ok sub')
    (hok : node.alter change path = .ok node') : node'.get? path = some sub' := by
  induction path generalizing node node' with
  | nil =>
    obtain rfl : node = sub := Option.some.inj ((get?_nil node).symm.trans h)
    rw [alter_nil, hc] at hok
    cases hok
    exact get?_nil sub'
  | cons segment rest ih =>
    cases node with
    | leaf item => cases h
    | branch kind children =>
      cases hfound : Named.find? segment children with
      | none => simp [get?, hfound] at h
      | some child =>
        simp only [get?, hfound] at h
        cases hchild : child.alter change rest with
        | error fault => simp only [alter, hfound, hchild, reduceCtorEq] at hok
        | ok child' =>
          simp only [alter, hfound, hchild] at hok
          cases hok
          rw [get?_branch_insert]
          exact ih h hchild

/-- A change that leaves the node at the end of a path as it is leaves the whole as it is. -/
theorem alter_of_same {change : Node → Except Fault Node} {node sub : Node} {path : Path}
    (h : node.get? path = some sub) (hc : change sub = .ok sub) :
    node.alter change path = .ok node := by
  induction path generalizing node with
  | nil =>
    obtain rfl : node = sub := Option.some.inj ((get?_nil node).symm.trans h)
    rw [alter_nil, hc]
  | cons segment rest ih =>
    cases node with
    | leaf item => rfl
    | branch kind children =>
      cases hfound : Named.find? segment children with
      | none => simp only [alter, hfound]
      | some child =>
        simp only [get?, hfound] at h
        simp only [alter, hfound, ih h]
        rw [Named.insert_of_find? hfound]

namespace View

/-- Where a branch stands no item does. -/
theorem IsBranchAt.not_isItemAt {view : View} {path : Path} (h : IsBranchAt view path) :
    ¬ IsItemAt view path := by
  intro hitem
  obtain ⟨kind, hkind⟩ := h
  obtain ⟨item, hitem⟩ := hitem
  rw [hkind] at hitem
  cases hitem

/-- The same is seen in two views everywhere but at and below some paths. -/
def SameBeside (v w : View) (paths : List Path) : Prop :=
  ∀ p, (∀ path ∈ paths, ¬ path <+: p) → v p = w p

theorem SameBeside.trans {u v w : View} {ps qs : List Path} (h : SameBeside u v ps)
    (h' : SameBeside v w qs) : SameBeside u w (ps ++ qs) := fun p hp =>
  (h p fun path hmem => hp path (List.mem_append_left _ hmem)).trans
    (h' p fun path hmem => hp path (List.mem_append_right _ hmem))

theorem SameBeside.mono {v w : View} {ps qs : List Path} (h : SameBeside v w ps)
    (hsub : ps ⊆ qs) : SameBeside v w qs := fun p hp =>
  h p fun path hmem => hp path (hsub hmem)

/-- A view agrees with itself beside any paths. -/
theorem sameBeside_self (v : View) (paths : List Path) : SameBeside v v paths := fun _ _ => rfl

/-- A graft changes nothing beside its path. -/
theorem sameBeside_graft (view top : View) (path : Path) :
    SameBeside view (view.graft path top) [path] := fun _ hp =>
  (graft_elsewhere (hp path (List.mem_singleton_self path)) view top).symm

end View

end Node

namespace Graph

variable {a b c graph : Graph} {root : String} {path : Path} {node : Node}
  {node? : Option Node}

/-- A path in two parts is followed one part after the other. -/
theorem get?_append (graph : Graph) (root : String) (p q : Path) :
    graph.get? root (p ++ q) = (graph.get? root p).bind (·.get? q) := by
  unfold get?
  cases Named.find? root graph with
  | none => rfl
  | some top => exact Node.get?_append top p q

/-- A child of a branch is found one name further. -/
theorem get?_child {kind : BranchKind} {children : Named Node}
    (h : graph.get? root path = some (.branch kind children)) (name : String) :
    graph.get? root (path ++ [name]) = Named.find? name children := by
  rw [get?_append, h, Option.bind_some, Node.get?]
  cases Named.find? name children with
  | none => rfl
  | some child => exact Node.get?_nil child

/-- A node that was altered is found where it stood. -/
theorem get?_of_alter {change : Node → Except Fault Node} {sub sub' : Node}
    (h : a.get? root path = some sub) (hc : change sub = .ok sub')
    (hok : a.alter root path change = .ok b) : b.get? root path = some sub' := by
  unfold alter at hok
  unfold get? at h
  obtain ⟨top, hfound, htop⟩ := Option.bind_eq_some_iff.1 h
  cases hdone : top.alter change path with
  | error fault => simp only [hfound, hdone, reduceCtorEq] at hok
  | ok top' =>
    simp only [hfound, hdone] at hok
    cases hok
    rw [get?, Named.find?_insert_self, Option.bind_some]
    exact Node.get?_of_alter htop hc hdone

/-- A change that leaves the node at a path as it is leaves the graph as it is. -/
theorem alter_of_same {change : Node → Except Fault Node} {sub : Node}
    (h : graph.get? root path = some sub) (hc : change sub = .ok sub) :
    graph.alter root path change = .ok graph := by
  unfold get? at h
  obtain ⟨top, hfound, htop⟩ := Option.bind_eq_some_iff.1 h
  simp only [alter, hfound, Node.alter_of_same htop hc]
  rw [Named.insert_of_find? hfound]

/-- What an item shows is all there is of it. -/
theorem get?_of_item {item : Item} (h : graph.view root path = some (.leaf item)) :
    graph.get? root path = some (.leaf item) := by
  obtain ⟨node, hget, hface⟩ := Option.map_eq_some_iff.1 h
  cases node with
  | branch kind children => cases hface
  | leaf item' =>
    cases hface
    exact hget

/-- The view shows an item exactly where the graph holds one. -/
theorem isItemAt_iff : (graph.view root).IsItemAt path ↔
    ∃ item, graph.get? root path = some (.leaf item) := by
  constructor
  · intro hitem
    obtain ⟨item, hseen⟩ := hitem
    exact ⟨item, get?_of_item hseen⟩
  · intro hitem
    obtain ⟨item, hget⟩ := hitem
    exact ⟨item, face_of_get? hget⟩

/-- What stands somewhere stands below a branch. -/
theorem isBranchAt_above {above : Path} {name : String}
    (h : graph.get? root (above ++ [name]) = some node) : (graph.view root).IsBranchAt above := by
  rw [get?_append] at h
  obtain ⟨parent, hparent, hbelow⟩ := Option.bind_eq_some_iff.1 h
  cases parent with
  | leaf item => cases hbelow
  | branch kind children => exact ⟨kind, face_of_get? hparent⟩

/-! What operations leave, in one word. -/

/-- The operation is refused with a fault of a kind, and leaves a graph. -/
def Change.IsRefusal (change : Change) (kind : FaultKind) (left : Graph) : Prop :=
  change.graph = left ∧ change.fault?.map Fault.kind = some kind

/-- A result is the graph after the change. -/
theorem ofExcept_of_ok {result : Except Fault Graph} {after : Graph} (h : result = .ok after) :
    Change.ofExcept graph result = ⟨after, none⟩ := by
  rw [h]
  rfl

/-- A fault leaves the graph as it was. -/
theorem ofExcept_of_error {result : Except Fault Graph} {fault : Fault}
    (h : result = .error fault) : Change.ofExcept graph result = ⟨graph, some fault⟩ := by
  rw [h]
  rfl

/-- A change that is all or nothing is a refusal exactly when its fault is of that kind. -/
theorem isRefusal_ofExcept_iff {result : Except Fault Graph} {kind : FaultKind} :
    (Change.ofExcept graph result).IsRefusal kind graph ↔
      (Change.ofExcept graph result).fault?.map Fault.kind = some kind := by
  cases result with
  | error fault => exact ⟨And.right, fun h => ⟨rfl, h⟩⟩
  | ok after => exact ⟨And.right, fun h => by cases h⟩

/-- A change without a fault is what was done. -/
theorem ok_of_fault?_none {result : Except Fault Graph}
    (h : (Change.ofExcept graph result).fault? = none) :
    result = .ok (Change.ofExcept graph result).graph := by
  cases result with
  | error fault => cases h
  | ok after => rfl

/-! Replacing what stands at a place. -/

/-- Two graphs look alike everywhere but at and below some paths of one root: every other path
leads nowhere in both, or to nodes of one kind, and to one item if it leads to an item. -/
def AlikeBeside (a b : Graph) (root : String) (paths : List Path) : Prop :=
  ∀ r p, (r = root → ∀ path ∈ paths, ¬ path <+: p) → a.view r p = b.view r p

theorem AlikeBeside.trans {ps qs : List Path} (h : AlikeBeside a b root ps)
    (h' : AlikeBeside b c root qs) : AlikeBeside a c root (ps ++ qs) := fun r p hp =>
  (h r p fun hr path hmem => hp hr path (List.mem_append_left _ hmem)).trans
    (h' r p fun hr path hmem => hp hr path (List.mem_append_right _ hmem))

/-- A view put below one root shows a change only where it differs from the old one. -/
theorem alikeBeside_of_put {v : Node.View} {paths : List Path}
    (hview : b.view = a.view.put root v) (hv : (a.view root).SameBeside v paths) :
    AlikeBeside a b root paths := by
  intro r p hp
  rw [hview]
  by_cases hr : root = r
  · subst hr
    rw [put_same]
    exact hv p (hp rfl)
  · rw [put_of_ne hr]

/-- A graph becomes another one by what is put at a path: there stands a node with all that is
below it, or nothing, and elsewhere nothing changes. -/
structure ReplacedAt (before after : Graph) (root : String) (path : Path)
    (node? : Option Node) : Prop where
  below : ∀ q, after.get? root (path ++ q) = node?.bind (·.get? q)
  beside : before.AlikeBeside after root [path]

/-- A read at the replaced path finds the replacement. -/
theorem ReplacedAt.get? (h : ReplacedAt a b root path node?) : b.get? root path = node? := by
  have hbelow := h.below []
  rw [List.append_nil] at hbelow
  rw [hbelow]
  cases node? with
  | none => rfl
  | some node => exact Node.get?_nil node

/-- Where a path is not at or below the one of the replacement, the same is seen of both. -/
theorem ReplacedAt.view_elsewhere (h : ReplacedAt a b root path node?) {p : Path}
    (hp : ¬ path <+: p) : b.view root p = a.view root p := by
  refine (h.beside root p fun _ other hmem => ?_).symm
  rwa [List.mem_singleton.1 hmem]

/-- Below a path that was emptied nothing is found. -/
theorem ReplacedAt.get?_none_below (h : ReplacedAt a b root path none) {p : Path}
    (hp : path <+: p) : b.get? root p = none := by
  obtain ⟨q, rfl⟩ := hp
  exact h.below q

/-- The branch below which a node stood is still there when another node, or none, stands there. -/
theorem ReplacedAt.isBranchAt_above {above : Path} {name : String}
    (h : ReplacedAt a b root (above ++ [name]) node?)
    (hold : a.get? root (above ++ [name]) = some node) : (b.view root).IsBranchAt above := by
  obtain ⟨kind, hkind⟩ := Graph.isBranchAt_above hold
  exact ⟨kind, (h.view_elsewhere (Path.not_prefix_above above name)).trans hkind⟩

/-- Where a node was taken away, exactly its own path and those below it lead nowhere any more. -/
theorem ReplacedAt.get?_eq_none_iff (h : ReplacedAt a b root path none) {r : String} {p : Path} :
    b.get? r p = none ↔ (r = root ∧ path <+: p) ∨ a.get? r p = none := by
  by_cases hbelow : r = root ∧ path <+: p
  · obtain ⟨rfl, hp⟩ := hbelow
    exact iff_of_true (h.get?_none_below hp) (.inl ⟨rfl, hp⟩)
  · have hsame : a.view r p = b.view r p := h.beside r p fun hr other hmem hp =>
      hbelow ⟨hr, List.mem_singleton.1 hmem ▸ hp⟩
    rw [← view_eq_none_iff, ← hsame, view_eq_none_iff]
    exact ⟨.inr, fun hcases => hcases.resolve_left hbelow⟩

/-- **Putting back.**  A graph is as before once the node comes back that stood at the place. -/
theorem ReplacedAt.restore {node?' : Option Node} (h : ReplacedAt a b root path node?')
    (h' : ReplacedAt b c root path node?) (hold : a.get? root path = node?) : Alike c a := by
  intro r p
  by_cases hbelow : r = root ∧ path <+: p
  · obtain ⟨rfl, q, rfl⟩ := hbelow
    rw [view, view, h'.below, get?_append, hold]
  · have hbeside : r = root → ∀ other ∈ [path], ¬ other <+: p := by
      intro hr other hmem hbegins
      exact hbelow ⟨hr, List.mem_singleton.1 hmem ▸ hbegins⟩
    exact ((h.beside r p hbeside).trans (h'.beside r p hbeside)).symm

/-- What is found at the path of a replacement makes it one, if nothing is seen to change
elsewhere. -/
theorem replacedAt_of_get? {top : Node.View} (hget : b.get? root path = node?)
    (hview : b.view = a.view.put root ((a.view root).graft path top)) :
    ReplacedAt a b root path node? where
  below q := by rw [get?_append, hget]
  beside := alikeBeside_of_put hview (Node.View.sameBeside_graft _ _ _)

end Graph

end TaskTree
