import TaskTree.Command.Basic
import TaskTree.Proofs.Graph.View
import TaskTree.Proofs.Path

/-!
# What commands do to what is seen

`View.after` says for every command what is seen once it was given: a command
that can be done replaces what is seen at and below one path, and any other
changes nothing.  It knows neither the order of names nor how a graph is kept.

Commands on graphs follow it (`view_execute`), but for a move that loses its
node, and a move succeeds exactly if it is `Movable` (`move_succeeds_iff`).
-/

namespace TaskTree

namespace Node.View

/-- A branch is seen at the end of a path. -/
def IsBranchAt (view : View) (path : Path) : Prop :=
  ∃ kind, view path = some (.branch kind)

instance (view : View) (path : Path) : Decidable (IsBranchAt view path) :=
  match h : view path with
  | some (.branch kind) => .isTrue ⟨kind, h⟩
  | some (.leaf _) => .isFalse fun ⟨_, h'⟩ => by rw [h] at h'; cases h'
  | none => .isFalse fun ⟨_, h'⟩ => by rw [h] at h'; cases h'

/-- Where a branch is something is seen. -/
theorem IsBranchAt.isSome {view : View} {path : Path} (h : IsBranchAt view path) :
    (view path).isSome := by
  obtain ⟨kind, hkind⟩ := h
  rw [hkind]
  rfl

/-- A branch stays one if a node is removed that it is not part of. -/
theorem IsBranchAt.prune {view : View} {path removed : Path} (h : IsBranchAt view path)
    (houtside : ¬ removed <+: path) : IsBranchAt (view.prune removed) path := by
  obtain ⟨kind, hkind⟩ := h
  exact ⟨kind, (graft_elsewhere houtside ..).trans hkind⟩

/-- An item is seen at the end of a path. -/
def IsItemAt (view : View) (path : Path) : Prop :=
  ∃ item, view path = some (.leaf item)

instance (view : View) (path : Path) : Decidable (IsItemAt view path) :=
  match h : view path with
  | some (.leaf item) => .isTrue ⟨item, h⟩
  | some (.branch _) => .isFalse fun ⟨_, h'⟩ => by rw [h] at h'; cases h'
  | none => .isFalse fun ⟨_, h'⟩ => by rw [h] at h'; cases h'

/-- Where a node comes to stand when it moves under a destination. -/
def landing (src dest : Path) : Path :=
  dest ++ src.getLast?.toList

theorem landing_concat (above : Path) (name : String) (dest : Path) :
    landing (above ++ [name]) dest = dest ++ [name] := by
  rw [landing, List.getLast?_concat]
  rfl

/-- A move finds its node, a destination outside of the node that can have nodes below it,
and a free name there or the very place where the node stands. -/
structure Movable (view : View) (src dest : Path) : Prop where
  nonempty : src ≠ []
  found : (view src).isSome
  outside : ¬ src <+: dest
  under : IsBranchAt view dest
  free : landing src dest = src ∨ view (landing src dest) = none

instance (view : View) (src dest : Path) : Decidable (Movable view src dest) :=
  decidable_of_iff (src ≠ [] ∧ (view src).isSome ∧ ¬ src <+: dest ∧ IsBranchAt view dest ∧
      (landing src dest = src ∨ view (landing src dest) = none))
    ⟨fun ⟨h1, h2, h3, h4, h5⟩ => ⟨h1, h2, h3, h4, h5⟩,
      fun ⟨h1, h2, h3, h4, h5⟩ => ⟨h1, h2, h3, h4, h5⟩⟩

/-- What is seen when a node is put at a path. -/
def created (view : View) (path : Path) (node : Node) : View :=
  if path ≠ [] ∧ (∀ segment ∈ path, Path.IsLegal segment) ∧ IsBranchAt view path.dropLast then
    view.graft path node.view
  else view

/-- Where the item at a path stands once it has a title. -/
def renamed (path : Path) (title : String) : Path :=
  path.dropLast ++ [Path.nameOfTitle title]

/-- What is seen when the item at a path is replaced. -/
def updated (view : View) (path : Path) (item : Item) : View :=
  if path ≠ [] ∧ IsItemAt view path ∧ Path.IsLegal (Path.nameOfTitle item.title) then
    (view.prune path).graft (renamed path item.title) (Node.leaf item).view
  else view

/-- Nothing is updated where no item is. -/
theorem updated_of_not_item {view : View} {path : Path} (h : ¬ IsItemAt view path) (item : Item) :
    view.updated path item = view := if_neg fun h' => h h'.2.1

/-- Nothing is updated to a title that makes no legal name. -/
theorem updated_of_not_legal {item : Item} (h : ¬ Path.IsLegal (Path.nameOfTitle item.title))
    (view : View) (path : Path) : view.updated path item = view := if_neg fun h' => h h'.2.2

/-- A branch sees the replacement of an item below it as its own. -/
theorem updated_append (view : View) (path : Path) (name : String) (item : Item) :
    view.updated (path ++ [name]) item =
      view.graft path (updated (fun q => view (path ++ q)) [name] item) := by
  by_cases h : IsItemAt view (path ++ [name]) ∧ Path.IsLegal (Path.nameOfTitle item.title)
  · have hhere : IsItemAt (fun q => view (path ++ q)) [name] := h.1
    rw [updated, updated, if_pos ⟨by simp, h⟩, if_pos ⟨by simp, hhere, h.2⟩, renamed, renamed,
      List.dropLast_concat, prune, graft_append, graft_append]
    simp [prune]
  · rw [updated, updated, if_neg fun h' => h h'.2, if_neg fun h' => h h'.2]
    exact (graft_eq_self fun _ => rfl).symm

/-- What is seen when the item at a path is put in its other state. -/
def toggled (view : View) (path : Path) : View :=
  match view path with
  | some (.leaf item) =>
    view.graft path (Node.leaf { item with state := item.state.toggled }).view
  | _ => view

/-- What is seen when the node at a path moves under a destination. -/
def moved (view : View) (src dest : Path) : View :=
  if Movable view src dest then
    (view.prune src).graft (landing src dest) fun q => view (src ++ q)
  else view

/-- What is seen when the node at a path is removed. -/
def archived (view : View) (path : Path) : View :=
  if path ≠ [] ∧ (view path).isSome then view.prune path else view

end Node.View

namespace Graph

/-- What is seen when a root is added. -/
def View.added (seen : View) (root : String) : View :=
  if root = "" ∨ (seen root []).isSome then seen else seen.put root Node.emptyUser.view

/-- What is seen after a command. -/
def View.after (seen : View) : Command → View
  | .createRoot root => seen.added root
  | .createSection root path => seen.put root ((seen root).created path .emptySection)
  | .createItem root path title description state =>
    seen.put root ((seen root).created path (.leaf ⟨title, description, state⟩))
  | .updateItem root path title description state =>
    seen.put root ((seen root).updated path ⟨title, description, state⟩)
  | .toggleItem root path => seen.put root ((seen root).toggled path)
  | .move root src dest => seen.put root ((seen root).moved src dest)
  | .archive root path => seen.put root ((seen root).archived path)

/-! Changes at the end of a path. -/

/-- Nothing is altered where nothing is. -/
theorem alter_of_get?_none {graph : Graph} {root : String} {path : Path}
    {change : Node → Except Fault Node} (h : graph.get? root path = none) :
    graph.alter root path change = .ok graph := by
  unfold alter
  cases hfound : Named.find? root graph with
  | none => rfl
  | some top =>
    rw [get?, hfound, Option.bind_some] at h
    simp only [Node.alter_of_get?_none h]
    rw [Named.insert_of_find? hfound]

/-- A change that is refused is refused by the graph. -/
theorem alter_refused {graph : Graph} {root : String} {path : Path}
    {change : Node → Except Fault Node} {sub : Node} {fault : Fault}
    (h : graph.get? root path = some sub) (hc : change sub = .error fault) :
    graph.alter root path change = .error fault := by
  unfold alter
  cases hfound : Named.find? root graph with
  | none => simp [get?, hfound] at h
  | some top =>
    rw [get?, hfound, Option.bind_some] at h
    simp only [Node.alter_refused h hc]

/-- A node that is altered is seen in the place of the old one. -/
theorem alter_of_get? {graph : Graph} {root : String} {path : Path}
    {change : Node → Except Fault Node} {sub sub' : Node}
    (h : graph.get? root path = some sub) (hc : change sub = .ok sub') :
    ∃ graph', graph.alter root path change = .ok graph' ∧
      view graph' = graph.view.put root ((graph.view root).graft path sub'.view) := by
  unfold alter
  cases hfound : Named.find? root graph with
  | none => simp [get?, hfound] at h
  | some top =>
    rw [get?, hfound, Option.bind_some] at h
    obtain ⟨top', hok, hview⟩ := Node.alter_of_get? h hc
    refine ⟨Named.insert root top' graph, by simp only [hok], ?_⟩
    rw [view_insert, hview, view_of_find? hfound]

/-- What is taken is what was there, and it is not seen any more. -/
theorem take?_of_get? {graph : Graph} {root : String} {path : Path} {sub : Node}
    (hne : path ≠ []) (h : graph.get? root path = some sub) :
    ∃ rest, graph.take? root path = some (sub, rest) ∧
      view rest = graph.view.put root ((graph.view root).prune path) := by
  unfold take?
  cases hfound : Named.find? root graph with
  | none => simp [get?, hfound] at h
  | some top =>
    rw [get?, hfound, Option.bind_some] at h
    obtain ⟨left, hok, hview⟩ := Node.detach?_of_get? hne h
    refine ⟨Named.insert root left graph, by simp only [hok, Option.map_some], ?_⟩
    rw [view_insert, hview, view_of_find? hfound]

/-- Nothing is taken where nothing is. -/
theorem take?_of_get?_none {graph : Graph} {root : String} {path : Path}
    (h : graph.get? root path = none) : graph.take? root path = none := by
  unfold take?
  cases hfound : Named.find? root graph with
  | none => rfl
  | some top =>
    rw [get?, hfound, Option.bind_some] at h
    simp only [Node.detach?_of_get?_none h, Option.map_none]

theorem take?_nil (graph : Graph) (root : String) : graph.take? root [] = none := by
  unfold take?
  cases Named.find? root graph with
  | none => rfl
  | some top => cases top <;> rfl

/-! The branch or the item at the end of a path. -/

/-- Where a branch is seen a branch is found. -/
theorem get?_of_branch {graph : Graph} {root : String} {path : Path}
    (h : (graph.view root).IsBranchAt path) :
    ∃ kind children, graph.get? root path = some (.branch kind children) := by
  obtain ⟨kind, h⟩ := h
  unfold view at h
  cases hget : graph.get? root path with
  | none => simp [hget] at h
  | some sub =>
    cases sub with
    | branch kind children => exact ⟨kind, children, rfl⟩
    | leaf item => simp [hget, Node.face] at h

/-- What is seen below a path is what is seen of the node there. -/
theorem view_of_get? {graph : Graph} {root : String} {path : Path} {sub : Node}
    (h : graph.get? root path = some sub) (q : Path) :
    graph.view root (path ++ q) = sub.view q := by
  rw [get?] at h
  obtain ⟨top, hfound, h⟩ := Option.bind_eq_some_iff.1 h
  rw [view_of_find? hfound, Node.view_append_of_get? h]

/-- What is seen at a path is the face of the node there. -/
theorem face_of_get? {graph : Graph} {root : String} {path : Path} {sub : Node}
    (h : graph.get? root path = some sub) : graph.view root path = some sub.face := by
  rw [view, h, Option.map_some]

/-- What is seen of a graph that was altered at a path. -/
theorem view_alter (graph : Graph) (root : String) (path : Path)
    (change : Node → Except Fault Node) :
    (Change.ofExcept graph (graph.alter root path change)).graph.view =
      match (graph.get? root path).map change with
      | some (.ok sub') => graph.view.put root ((graph.view root).graft path sub'.view)
      | _ => graph.view := by
  cases h : graph.get? root path with
  | none =>
    rw [alter_of_get?_none h]
    rfl
  | some sub =>
    rw [Option.map_some]
    cases hc : change sub with
    | error fault =>
      rw [alter_refused h hc]
      rfl
    | ok sub' =>
      obtain ⟨graph', hok, hview⟩ := alter_of_get? h hc
      rw [hok]
      exact hview

/-! The commands one after another. -/

/-- A node is created below a branch if its path is legal. -/
theorem create_of_branch {graph : Graph} {root : String} {above : Path} {name : String}
    (hlegal : ∀ segment ∈ above ++ [name], Path.IsLegal segment)
    (hunder : (graph.view root).IsBranchAt above) (node : Node) :
    ∃ graph', graph.create root (above ++ [name]) node = .ok graph' ∧ view graph' =
      graph.view.put root ((graph.view root).graft (above ++ [name]) node.view) := by
  unfold create
  rw [List.getLast?_concat, List.dropLast_concat]
  cases hfound : Named.find? root graph with
  | none =>
    obtain ⟨kind, hkind⟩ := hunder
    rw [view_of_find?_none hfound] at hkind
    cases hkind
  | some top =>
    rw [view_of_find? hfound] at hunder ⊢
    obtain ⟨kind, hkind⟩ := hunder
    obtain ⟨top', hok, hview⟩ := @Node.insert_of_branch node name top above kind hkind
    refine ⟨Named.insert root top' graph, ?_, ?_⟩
    · simp only [Path.check_eq_ok_iff.2 hlegal, hok]
    · rw [view_insert, hview]

/-- A node is created nowhere else. -/
theorem create_refused {graph : Graph} {root : String} {path : Path}
    (h : ¬ (path ≠ [] ∧ (∀ segment ∈ path, Path.IsLegal segment) ∧
      (graph.view root).IsBranchAt path.dropLast)) (node : Node) :
    ∃ fault, graph.create root path node = .error fault := by
  unfold create
  cases hlast : path.getLast? with
  | none => exact ⟨_, rfl⟩
  | some name =>
    obtain ⟨above, rfl⟩ := List.getLast?_eq_some_iff.1 hlast
    simp only
    cases hcheck : Path.check (above ++ [name]) with
    | error fault => exact ⟨fault, rfl⟩
    | ok u =>
      cases hfound : Named.find? root graph with
      | none => exact ⟨_, rfl⟩
      | some top =>
        rw [view_of_find? hfound] at h
        obtain ⟨fault, hfault⟩ := @Node.insert_refused node name top (above ++ [name]).dropLast
          fun kind hkind => h ⟨by simp, Path.check_eq_ok_iff.1 hcheck, kind, hkind⟩
        exact ⟨fault, by simp only [hfault]⟩

/-- What is seen after a node was created, or refused. -/
theorem view_create (graph : Graph) (root : String) (path : Path) (node : Node) :
    (Change.ofExcept graph (graph.create root path node)).graph.view =
      graph.view.put root ((graph.view root).created path node) := by
  by_cases h : path ≠ [] ∧ (∀ segment ∈ path, Path.IsLegal segment) ∧
      (graph.view root).IsBranchAt path.dropLast
  · obtain ⟨above, name, rfl⟩ := Path.exists_above h.1
    have hunder : (graph.view root).IsBranchAt above := by
      rw [← @List.dropLast_concat _ above name]
      exact h.2.2
    obtain ⟨graph', hok, hview⟩ := create_of_branch h.2.1 hunder node
    rw [hok, Node.View.created, if_pos h]
    exact hview
  · obtain ⟨fault, hfault⟩ := create_refused h node
    rw [hfault, Node.View.created, if_neg h, put_self]
    rfl

/-- A root is seen exactly if it is there. -/
theorem isSome_view_root (graph : Graph) (root : String) :
    (graph.view root []).isSome = Named.has root graph := by
  cases h : Named.find? root graph with
  | none => simp [view_of_find?_none h, Named.has, h]
  | some top => simp [view_of_find? h, Named.has, h]

/-- What is seen after a root was created, or refused. -/
theorem view_createRoot (graph : Graph) (root : String) :
    (Change.ofExcept graph (graph.createRoot root)).graph.view =
      graph.view.added root := by
  unfold createRoot View.added
  rw [isSome_view_root]
  by_cases hempty : root = ""
  · rw [if_pos hempty, if_pos (.inl hempty)]
    rfl
  · rw [if_neg hempty]
    by_cases hroot : Named.has root graph = true
    · rw [if_pos hroot, if_pos (.inr hroot)]
      rfl
    · rw [if_neg hroot, if_neg (by simp [hempty, hroot]), ← view_insert]
      rfl

/-- What is seen after an item was toggled, or refused. -/
theorem view_toggleItem (graph : Graph) (root : String) (path : Path) :
    (Change.ofExcept graph (graph.toggleItem root path)).graph.view =
      graph.view.put root ((graph.view root).toggled path) := by
  unfold toggleItem Node.View.toggled
  cases h : graph.get? root path with
  | none =>
    rw [view_eq_none_iff.2 h, put_self, alter_of_get?_none h]
    rfl
  | some sub =>
    rw [face_of_get? h]
    cases sub with
    | branch kind children =>
      rw [alter_refused h rfl]
      exact (put_self ..).symm
    | leaf item =>
      obtain ⟨graph', hok, hview⟩ :=
        @alter_of_get? graph root path (Node.toggle (Path.place root path)) _ _ h rfl
      rw [hok]
      exact hview

/-- What is seen of a node in which the item under a name was replaced. -/
theorem view_renameItem (place name : String) (item : Item) (node : Node) :
    ((Node.renameItem place name (.leaf item) node).toOption.getD node).view =
      node.view.updated [name] item := by
  cases node with
  | leaf item' =>
    rw [Node.View.updated_of_not_item]
    · rfl
    · intro hitem
      obtain ⟨item'', h⟩ := hitem
      cases h
  | branch kind children =>
    have hbelow := Node.view_branch_cons kind children name []
    cases hfound : Named.find? name children with
    | none =>
      have hkept : Node.renameItem place name (.leaf item) (.branch kind children) =
          .ok (.branch kind children) := by simp only [Node.renameItem, hfound]
      rw [hfound] at hbelow
      rw [hkept, Node.View.updated_of_not_item]
      · rfl
      · intro hitem
        obtain ⟨item', h⟩ := hitem
        rw [hbelow] at h
        cases h
    | some child =>
      rw [hfound, Option.bind_some, Node.view_nil] at hbelow
      cases child with
      | branch kind' children' =>
        have hrefused : Node.renameItem place name (.leaf item) (.branch kind children) =
            .error (.foundNotAnItem place) := by simp only [Node.renameItem, hfound]
        rw [hrefused, Node.View.updated_of_not_item]
        · rfl
        · intro hitem
          obtain ⟨item', h⟩ := hitem
          rw [hbelow] at h
          cases h
      | leaf item' =>
        cases hcheck : Path.checkSegment (Path.nameOfTitle item.title) with
        | error fault =>
          have hrefused : Node.renameItem place name (.leaf item) (.branch kind children) =
              .error fault := by simp only [Node.renameItem, hfound, hcheck]
          rw [hrefused,
            Node.View.updated_of_not_legal (Path.not_isLegal_of_checkSegment hcheck)]
          rfl
        | ok u =>
          have hlegal := Path.checkSegment_eq_ok_iff.1 hcheck
          have hdone : Node.renameItem place name (.leaf item) (.branch kind children) =
              .ok (.branch kind (Named.insert (Path.nameOfTitle item.title) (.leaf item)
                (Named.erase name children))) := by simp only [Node.renameItem, hfound, hcheck]
          rw [hdone, Node.View.updated, if_pos ⟨by simp, ⟨item', hbelow⟩, hlegal⟩,
            ← Node.view_branch_erase_eq]
          exact Node.view_branch_insert_eq ..

/-- What is seen after an item was updated, or refused. -/
theorem view_updateItem (graph : Graph) (root : String) (path : Path) (item : Item) :
    (Change.ofExcept graph (graph.updateItem root path (.leaf item))).graph.view =
      graph.view.put root ((graph.view root).updated path item) := by
  unfold updateItem
  cases hlast : path.getLast? with
  | none =>
    rw [Node.View.updated, if_neg fun h => h.1 (List.getLast?_eq_none_iff.1 hlast), put_self]
    rfl
  | some name =>
    obtain ⟨above, rfl⟩ := List.getLast?_eq_some_iff.1 hlast
    rw [List.dropLast_concat]
    simp only
    rw [view_alter]
    cases h : graph.get? root above with
    | none =>
      rw [Node.View.updated_of_not_item, put_self]
      · rfl
      · intro hthere
        obtain ⟨item', hitem⟩ := hthere
        rw [view_none_append (view_eq_none_iff.2 h)] at hitem
        cases hitem
    | some sub =>
      have hsub : (fun q => graph.view root (above ++ q)) = sub.view := funext (view_of_get? h)
      have hself : (graph.view root).graft above sub.view = graph.view root :=
        Node.graft_eq_self (view_of_get? h)
      rw [Node.View.updated_append, hsub,
        ← view_renameItem (Path.place root (above ++ [name])), Option.map_some]
      cases Node.renameItem (Path.place root (above ++ [name])) name (.leaf item) sub with
      | error fault => simp [Except.toOption, hself]
      | ok sub' => simp [Except.toOption]

/-- What is seen after a node was deleted, or refused. -/
theorem view_delete (graph : Graph) (root : String) (path : Path) :
    (Change.ofExcept graph (graph.delete root path)).graph.view =
      graph.view.put root ((graph.view root).archived path) := by
  unfold delete Node.View.archived
  by_cases hne : path = []
  · rw [hne, take?_nil, if_neg (by simp), put_self]
    rfl
  · cases h : graph.get? root path with
    | none =>
      rw [take?_of_get?_none h, if_neg (by simp [view_eq_none_iff.2 h]), put_self]
      rfl
    | some sub =>
      obtain ⟨rest, htake, hview⟩ := take?_of_get? hne h
      rw [htake, if_pos ⟨hne, by simp [face_of_get? h]⟩]
      exact hview

/-! Moves. -/

/-- A move loses its node: it takes the node away, and cannot bring it to the destination. -/
def LosesNode (graph : Graph) : Command → Prop
  | .move root src dest =>
    (graph.take? root src).isSome ∧ (graph.move root src dest).fault?.isSome
  | _ => False

instance (graph : Graph) (command : Command) : Decidable (graph.LosesNode command) := by
  cases command <;> unfold LosesNode <;> infer_instance

/-- A node is attached below a branch where its name is free. -/
theorem attach_of_free {graph : Graph} {root : String} {dest : Path} {name : String} {node : Node}
    (hunder : (graph.view root).IsBranchAt dest)
    (hfree : graph.view root (dest ++ [name]) = none) :
    ∃ graph', graph.attach root dest name node = .ok graph' ∧
      view graph' = graph.view.put root ((graph.view root).graft (dest ++ [name]) node.view) := by
  obtain ⟨kind, children, hget⟩ := get?_of_branch hunder
  have hbelow := view_of_get? hget
  have hname : Named.has name children = false := by
    rw [hbelow, Node.view_branch_cons] at hfree
    cases hfound : Named.find? name children with
    | none => rw [Named.has, hfound]; rfl
    | some child => simp [hfound] at hfree
  have hdone : ∃ graph', graph.attach root dest name node = .ok graph' ∧
      view graph' = graph.view.put root ((graph.view root).graft dest
        (Node.branch kind (Named.insert name node children)).view) := by
    unfold attach
    simp only [hget, hname, Bool.false_eq_true, if_false]
    exact alter_of_get? hget rfl
  obtain ⟨graph', hok, hview⟩ := hdone
  refine ⟨graph', hok, ?_⟩
  rw [hview, Node.view_branch_insert_eq, Node.graft_append, funext hbelow]

/-- A node is attached nowhere else. -/
theorem attach_refused {graph : Graph} {root : String} {dest : Path} {name : String} {node : Node}
    (h : ¬ ((graph.view root).IsBranchAt dest ∧ graph.view root (dest ++ [name]) = none)) :
    ∃ fault, graph.attach root dest name node = .error fault := by
  unfold attach
  cases hget : graph.get? root dest with
  | none => exact ⟨_, rfl⟩
  | some sub =>
    cases sub with
    | leaf item => exact ⟨_, rfl⟩
    | branch kind children =>
      have hunder : (graph.view root).IsBranchAt dest := ⟨kind, face_of_get? hget⟩
      have hname : Named.has name children = true := by
        rw [Named.has, Option.isSome_iff_ne_none]
        intro hfound
        refine h ⟨hunder, ?_⟩
        rw [view_of_get? hget, Node.view_branch_cons, hfound, Option.bind_none]
      exact ⟨.nameTaken name, by simp only [hname, if_true]⟩

/-- The node taken away can be attached exactly if the move is possible. -/
theorem movable_iff {seen : Node.View} {above : Path} {name : String} {dest : Path}
    (hfound : (seen (above ++ [name])).isSome) :
    seen.Movable (above ++ [name]) dest ↔
      (seen.prune (above ++ [name])).IsBranchAt dest ∧
        seen.prune (above ++ [name]) (dest ++ [name]) = none := by
  have hlanding := Node.View.landing_concat above name dest
  constructor
  · intro hmovable
    obtain ⟨-, -, houtside, ⟨kind, hkind⟩, hfree⟩ := hmovable
    rw [hlanding] at hfree
    refine ⟨⟨kind, (Node.graft_elsewhere houtside ..).trans hkind⟩, ?_⟩
    by_cases hbegins : above ++ [name] <+: dest ++ [name]
    · exact if_pos hbegins
    · refine (Node.graft_elsewhere hbegins ..).trans (hfree.resolve_left fun heq => ?_)
      exact hbegins (heq ▸ List.prefix_refl _)
  · intro hpruned
    obtain ⟨⟨kind, hkind⟩, hfree⟩ := hpruned
    have houtside : ¬ above ++ [name] <+: dest := by
      intro hbegins
      rw [Node.View.prune, Node.View.graft, if_pos hbegins] at hkind
      cases hkind
    rw [Node.View.prune, Node.graft_elsewhere houtside] at hkind
    refine ⟨by simp, hfound, houtside, ⟨kind, hkind⟩, ?_⟩
    rw [hlanding]
    by_cases hbegins : above ++ [name] <+: dest ++ [name]
    · exact .inl ((List.prefix_concat_iff.1 hbegins).resolve_right houtside).symm
    · exact .inr ((Node.graft_elsewhere hbegins ..).symm.trans hfree)

/-- A node that was taken away is attached to what is left. -/
theorem move_of_take? {graph rest : Graph} {root : String} {above : Path} {name : String}
    {sub : Node} (h : graph.take? root (above ++ [name]) = some (sub, rest)) (dest : Path) :
    graph.move root (above ++ [name]) dest = .ofExcept rest (attach rest root dest name sub) := by
  rw [move, List.getLast?_concat, h]

/-- A move takes its node first, and then attaches it to what is left. -/
theorem move_of_get? {graph : Graph} {root : String} {above : Path} {name : String} {sub : Node}
    (h : graph.get? root (above ++ [name]) = some sub) (dest : Path) :
    ∃ rest, graph.take? root (above ++ [name]) = some (sub, rest) ∧
      view rest = graph.view.put root ((graph.view root).prune (above ++ [name])) ∧
      graph.move root (above ++ [name]) dest = .ofExcept rest (attach rest root dest name sub) := by
  obtain ⟨rest, htake, hview⟩ := take?_of_get? (by simp) h
  exact ⟨rest, htake, hview, move_of_take? htake dest⟩

/-- A move finds no node where none can be taken. -/
theorem move_of_take?_none {graph : Graph} {root : String} {src : Path}
    (h : graph.take? root src = none) (dest : Path) :
    graph.move root src dest = ⟨graph, some .sourceMissing⟩ := by
  rw [move, h]
  cases src.getLast? <;> rfl

/-- What a move finds that can be done, and what it leaves. -/
theorem move_of_movable {graph : Graph} {root : String} {src dest : Path}
    (h : (graph.view root).Movable src dest) :
    (graph.move root src dest).fault? = none ∧
      (graph.move root src dest).graph.view =
        graph.view.put root ((graph.view root).moved src dest) := by
  obtain ⟨above, name, rfl⟩ := Path.exists_above h.nonempty
  cases hget : graph.get? root (above ++ [name]) with
  | none =>
    have hfound := h.found
    rw [view_eq_none_iff.2 hget] at hfound
    cases hfound
  | some sub =>
    obtain ⟨rest, -, hrest, hmove⟩ := move_of_get? hget dest
    obtain ⟨hunder, hfree⟩ := (movable_iff h.found).1 h
    have hroot : view rest root = (graph.view root).prune (above ++ [name]) := by
      rw [hrest, put_same]
    rw [← hroot] at hunder hfree
    obtain ⟨graph', hok, hview⟩ := @attach_of_free rest root dest name sub hunder hfree
    rw [hmove, hok]
    refine ⟨rfl, ?_⟩
    have hlanding := Node.View.landing_concat above name dest
    have hsub : (fun q => graph.view root (above ++ [name] ++ q)) = sub.view :=
      funext (view_of_get? hget)
    rw [Node.View.moved, if_pos h, hlanding, hsub, ← hroot]
    exact hview.trans (by rw [hrest, put_put, put_same])

/-- A move that cannot be done is refused; only one that does not find its node does no harm. -/
theorem move_of_not_movable {graph : Graph} {root : String} {src dest : Path}
    (h : ¬ (graph.view root).Movable src dest) :
    (graph.move root src dest).fault?.isSome ∧
      (¬ (graph.take? root src).isSome → (graph.move root src dest).graph = graph) := by
  cases htake : graph.take? root src with
  | none =>
    rw [move_of_take?_none htake]
    exact ⟨rfl, fun _ => rfl⟩
  | some found =>
    refine ⟨?_, fun hnone => absurd rfl hnone⟩
    cases hlast : src.getLast? with
    | none =>
      rw [List.getLast?_eq_none_iff.1 hlast, take?_nil] at htake
      cases htake
    | some name =>
      obtain ⟨above, rfl⟩ := List.getLast?_eq_some_iff.1 hlast
      cases hget : graph.get? root (above ++ [name]) with
      | none =>
        rw [take?_of_get?_none hget] at htake
        cases htake
      | some sub =>
        obtain ⟨rest, -, hrest, hmove⟩ := move_of_get? hget dest
        have hroot : view rest root = (graph.view root).prune (above ++ [name]) := by
          rw [hrest, put_same]
        have hthere : (graph.view root (above ++ [name])).isSome := by
          rw [face_of_get? hget]
          rfl
        have hnot := mt (movable_iff hthere).2 h
        rw [← hroot] at hnot
        obtain ⟨fault, hfault⟩ := @attach_refused rest root dest name sub hnot
        rw [hmove, hfault]
        rfl

/-- **Moves that can be done.**  A move succeeds exactly if it is possible in what is seen. -/
theorem move_succeeds_iff (graph : Graph) (root : String) (src dest : Path) :
    (graph.move root src dest).fault? = none ↔ (graph.view root).Movable src dest := by
  refine ⟨fun h => ?_, fun h => (move_of_movable h).1⟩
  apply Decidable.byContradiction
  intro hnot
  have hrefused := (move_of_not_movable hnot).1
  rw [h] at hrefused
  cases hrefused

/-- What is seen after a move that does not lose its node. -/
theorem view_move {graph : Graph} {root : String} {src dest : Path}
    (h : ¬ graph.LosesNode (.move root src dest)) :
    (graph.move root src dest).graph.view =
      graph.view.put root ((graph.view root).moved src dest) := by
  by_cases hmovable : (graph.view root).Movable src dest
  · exact (move_of_movable hmovable).2
  · obtain ⟨hrefused, hkept⟩ := move_of_not_movable hmovable
    rw [hkept fun htake => h ⟨htake, hrefused⟩, Node.View.moved, if_neg hmovable, put_self]

/-- A move that loses its node leaves to be seen what archiving the node would. -/
theorem view_losing_move {graph : Graph} {root : String} {src dest : Path}
    (h : graph.LosesNode (.move root src dest)) : src ≠ [] ∧
      (graph.move root src dest).graph.view =
        graph.view.put root ((graph.view root).prune src) := by
  obtain ⟨htaken, hrefused⟩ := h
  have hne : src ≠ [] := by
    intro hnil
    rw [hnil, take?_nil] at htaken
    cases htaken
  refine ⟨hne, ?_⟩
  obtain ⟨above, name, rfl⟩ := Path.exists_above hne
  cases hget : graph.get? root (above ++ [name]) with
  | none =>
    rw [take?_of_get?_none hget] at htaken
    cases htaken
  | some sub =>
    obtain ⟨rest, -, hrest, hmove⟩ := move_of_get? hget dest
    rw [hmove] at hrefused ⊢
    cases hattach : attach rest root dest name sub with
    | ok graph' =>
      rw [hattach] at hrefused
      cases hrefused
    | error fault => exact hrest

/-- **Commands on graphs are what is seen of them.**  A command that does not lose a node
leaves to be seen what it does to what was seen. -/
theorem view_execute {graph : Graph} {command : Command} (h : ¬ graph.LosesNode command) :
    (graph.execute command).graph.view = graph.view.after command := by
  cases command with
  | createRoot root => exact view_createRoot graph root
  | createSection root path => exact view_create graph root path .emptySection
  | createItem root path title description state => exact view_create graph root path _
  | updateItem root path title description state => exact view_updateItem graph root path _
  | toggleItem root path => exact view_toggleItem graph root path
  | move root src dest => exact view_move h
  | archive root path => exact view_delete graph root path

end Graph

end TaskTree
