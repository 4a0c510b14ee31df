import TaskTree.Node.Basic
import TaskTree.Proofs.Named

/-!
# What is seen of a node

A node is seen through its paths: at the end of a path stands nothing, or an
item with its fields, or a branch of some kind.  Two nodes that look alike at
every path differ in the order of their children only, so `Alike` is equality
of nested mappings (`alike_branch_iff` is its recursive form).

Every change of a node is one move: what is seen at and below a path is
replaced, and nothing else is.  `graft` is that move on views, and the lemmas
`insert_of_branch`, `detach?_of_get?` and `alter_of_get?` say that the
operations on nodes make it.
-/

namespace TaskTree.Node

/-- Induction over a node: a branch may use what holds of its children. -/
theorem byChildren {P : Node → Prop} (leaf : ∀ item, P (.leaf item))
    (branch : ∀ kind children, (∀ entry ∈ children, P entry.2) → P (.branch kind children))
    (node : Node) : P node :=
  @Node.rec P (fun children => ∀ entry ∈ children, P entry.2) (fun entry => P entry.2)
    (fun kind children ih => branch kind children ih) leaf
    (fun _ h => by cases h)
    (fun _ _ hhead htail entry h => by
      rcases List.mem_cons.1 h with rfl | h
      · exact hhead
      · exact htail entry h)
    (fun _ _ h => h) node

/-- What stands at the end of a path, without the nodes below it. -/
inductive Face where
  | branch (kind : BranchKind)
  | leaf (item : Item)
  deriving DecidableEq, Repr

/-- A node without the nodes below it. -/
def face : Node → Face
  | .branch kind _ => .branch kind
  | .leaf item => .leaf item

/-- What is seen at the end of each path. -/
abbrev View := Path → Option Face

/-- What is seen of a node. -/
def view (node : Node) : View :=
  fun path => (node.get? path).map face

@[simp] theorem view_nil (node : Node) : node.view [] = some node.face := by
  cases node <;> rfl

@[simp] theorem view_leaf_cons (item : Item) (segment : String) (rest : Path) :
    (Node.leaf item).view (segment :: rest) = none := rfl

theorem view_branch_cons (kind : BranchKind) (children : Named Node) (segment : String)
    (rest : Path) : (Node.branch kind children).view (segment :: rest) =
      (Named.find? segment children).bind (·.view rest) := by
  unfold view
  rw [get?]
  cases Named.find? segment children <;> rfl

/-- What is seen of a branch below a name is what is seen of the child of that name. -/
theorem view_branch_child {kind : BranchKind} {children : Named Node} {segment : String}
    {child : Node} (hfound : Named.find? segment children = some child) :
    (fun q => (Node.branch kind children).view (segment :: q)) = child.view := by
  funext q
  rw [view_branch_cons, hfound, Option.bind_some]

/-- Nothing is seen below a node without nodes below it. -/
theorem view_cons_of_bare {node : Node} (hbare : node.children = []) (segment : String)
    (rest : Path) : node.view (segment :: rest) = none := by
  cases node with
  | leaf item => rfl
  | branch kind children =>
    obtain rfl : children = [] := hbare
    rw [view_branch_cons, Named.find?_nil, Option.bind_none]

/-- What is seen below a path is what is seen of the node at its end. -/
theorem view_append (node : Node) (p q : Path) :
    node.view (p ++ q) = (node.get? p).bind (·.view q) := by
  unfold view
  rw [get?_append]
  cases node.get? p <;> rfl

/-- Below a node that stands, the view is that node's own. -/
theorem view_append_of_get? {node sub : Node} {p : Path} (h : node.get? p = some sub) (q : Path) :
    node.view (p ++ q) = sub.view q := by
  rw [view_append, h, Option.bind_some]

/-- A path is unseen exactly when no node stands there. -/
theorem view_eq_none_iff {node : Node} {path : Path} :
    node.view path = none ↔ node.get? path = none := by
  simp [view]

/-- Nothing is seen below an unseen path. -/
theorem view_none_append {node : Node} {p : Path} (h : node.view p = none) (q : Path) :
    node.view (p ++ q) = none := by
  rw [view_append, view_eq_none_iff.1 h, Option.bind_none]

/-! Nodes that look alike. -/

/-- Two nodes are equal as nested mappings: at every path the same is seen of them. -/
def Alike (a b : Node) : Prop :=
  ∀ path, a.view path = b.view path

theorem Alike.refl (node : Node) : Alike node node := fun _ => rfl

theorem Alike.symm {a b : Node} (h : Alike a b) : Alike b a := fun path => (h path).symm

theorem Alike.trans {a b c : Node} (h : Alike a b) (h' : Alike b c) : Alike a c :=
  fun path => (h path).trans (h' path)

/-- Items are alike only when they are the same item. -/
theorem alike_leaf_iff {item item' : Item} :
    Alike (.leaf item) (.leaf item') ↔ item = item' := by
  constructor
  · intro h
    simpa [face] using h []
  · intro heq
    subst heq
    exact Alike.refl _

/-- An item is like no branch. -/
theorem not_alike_leaf_branch {item : Item} {kind : BranchKind} {children : Named Node} :
    ¬ Alike (.leaf item) (.branch kind children) := by
  intro h
  simpa [face] using h []

/-- Branches are alike if they are of one kind, have children of the same names, and
children of one name are alike. -/
theorem alike_branch_iff {kind kind' : BranchKind} {children children' : Named Node} :
    Alike (.branch kind children) (.branch kind' children') ↔
      kind = kind' ∧ ∀ name, Option.Rel Alike (Named.find? name children)
        (Named.find? name children') := by
  constructor
  · intro h
    refine ⟨by simpa [face] using h [], fun name => ?_⟩
    have hbelow : ∀ rest, (Named.find? name children).bind (·.view rest) =
        (Named.find? name children').bind (·.view rest) := fun rest => by
      rw [← view_branch_cons kind, ← view_branch_cons kind', h]
    cases ha : Named.find? name children with
    | none =>
      cases hb : Named.find? name children' with
      | none => exact .none
      | some b => simpa [ha, hb] using hbelow []
    | some a =>
      cases hb : Named.find? name children' with
      | none => simpa [ha, hb] using hbelow []
      | some b => exact .some fun rest => by simpa [ha, hb] using hbelow rest
  · intro hsame path
    obtain ⟨rfl, h⟩ := hsame
    cases path with
    | nil => rfl
    | cons segment rest =>
      rw [view_branch_cons, view_branch_cons]
      have hsegment := h segment
      revert hsegment
      generalize Named.find? segment children = a?
      generalize Named.find? segment children' = b?
      intro hab
      cases hab with
      | none => rfl
      | some hab => exact hab rest

/-! Replacing what is seen at and below a path. -/

/-- A view with `top` put at the end of a path, over all that was seen there. -/
def View.graft (view : View) (path : Path) (top : View) : View :=
  fun p => if path <+: p then top (p.drop path.length) else view p

/-- A view with nothing at and below a path. -/
def View.prune (view : View) (path : Path) : View :=
  view.graft path fun _ => none

@[simp] theorem graft_nil_path (view top : View) : view.graft [] top = top := by
  funext p
  simp [View.graft]

@[simp] theorem graft_cons_nil (view top : View) (segment : String) (rest : Path) :
    view.graft (segment :: rest) top [] = view [] := by
  simp [View.graft]

/-- A graft below a name goes into the view of that name and leaves the other names alone. -/
theorem graft_cons_cons (view top : View) (segment : String) (rest : Path) (s : String)
    (p : Path) : view.graft (segment :: rest) top (s :: p) =
      if segment = s then View.graft (fun q => view (segment :: q)) rest top p
      else view (s :: p) := by
  by_cases h : segment = s
  · subst h
    simp [View.graft]
  · simp [View.graft, h]

/-- Beside the grafted path the view is the old one. -/
theorem graft_elsewhere {path p : Path} (h : ¬ path <+: p) (view top : View) :
    view.graft path top p = view p := if_neg h

@[simp] theorem graft_append_path (view top : View) (path q : Path) :
    view.graft path top (path ++ q) = top q := by
  simp [View.graft]

@[simp] theorem graft_path (view top : View) (path : Path) : view.graft path top path = top [] := by
  simpa using graft_append_path view top path []

@[simp] theorem graft_graft (view top top' : View) (path : Path) :
    (view.graft path top).graft path top' = view.graft path top' := by
  funext p
  by_cases h : path <+: p <;> simp [View.graft, h]

/-- A change further down is a change of what is below the first part of the way. -/
theorem graft_append (view top : View) (p q : Path) :
    view.graft (p ++ q) top = view.graft p (View.graft (fun r => view (p ++ r)) q top) := by
  funext r
  by_cases h : p <+: r
  · obtain ⟨r, rfl⟩ := h
    rw [graft_append_path]
    simp [View.graft]
  · rw [graft_elsewhere h, graft_elsewhere]
    exact fun hpq => h ((List.prefix_append p q).trans hpq)

/-- Where a view shows at and below a path what is put there, nothing changes. -/
theorem graft_eq_self {view top : View} {path : Path} (h : ∀ q, view (path ++ q) = top q) :
    view.graft path top = view := by
  funext p
  by_cases hp : path <+: p
  · obtain ⟨q, rfl⟩ := hp
    rw [graft_append_path, h]
  · exact graft_elsewhere hp ..

/-- What is put at a path need not have been taken away there before. -/
theorem graft_prune_prune (view top : View) (p q : Path) :
    ((view.prune q).prune p).graft q top = (view.prune p).graft q top := by
  funext r
  by_cases hq : q <+: r
  · simp [View.graft, hq]
  · by_cases hp : p <+: r <;> simp [View.graft, View.prune, hp, hq]

/-- A branch whose child `segment` has become another node. -/
theorem view_branch_insert (kind : BranchKind) (children : Named Node) (segment : String)
    (child : Node) (s : String) (p : Path) :
    (Node.branch kind (Named.insert segment child children)).view (s :: p) =
      if segment = s then child.view p else (Node.branch kind children).view (s :: p) := by
  rw [view_branch_cons, view_branch_cons, Named.find?_insert]
  by_cases h : segment = s <;> simp [h]

/-- A branch that has lost its child `segment`. -/
theorem view_branch_erase (kind : BranchKind) (children : Named Node) (segment s : String)
    (p : Path) : (Node.branch kind (Named.erase segment children)).view (s :: p) =
      if segment = s then none else (Node.branch kind children).view (s :: p) := by
  rw [view_branch_cons, view_branch_cons, Named.find?_erase]
  by_cases h : segment = s <;> simp [h]

/-- Storing a child is a graft at its name. -/
theorem view_branch_insert_eq (kind : BranchKind) (children : Named Node) (segment : String)
    (child : Node) : (Node.branch kind (Named.insert segment child children)).view =
      (Node.branch kind children).view.graft [segment] child.view := by
  funext p
  cases p with
  | nil => simp [face]
  | cons s p => rw [view_branch_insert, graft_cons_cons, graft_nil_path]

/-- Erasing a child prunes the view at its name. -/
theorem view_branch_erase_eq (kind : BranchKind) (children : Named Node) (segment : String) :
    (Node.branch kind (Named.erase segment children)).view =
      (Node.branch kind children).view.prune [segment] := by
  funext p
  cases p with
  | nil => simp [View.prune, face]
  | cons s p => rw [view_branch_erase, View.prune, graft_cons_cons, graft_nil_path]

/-- A change inside a child is the same change of the branch, one name further down. -/
theorem view_branch_graft {kind : BranchKind} {children : Named Node} {segment : String}
    {child child' : Node} {rest : Path} {top : View}
    (hfound : Named.find? segment children = some child)
    (h : child'.view = child.view.graft rest top) :
    (Node.branch kind (Named.insert segment child' children)).view =
      (Node.branch kind children).view.graft (segment :: rest) top := by
  funext p
  cases p with
  | nil => simp [face]
  | cons s p =>
    rw [view_branch_insert, graft_cons_cons, view_branch_child hfound, h]

/-! The operations on nodes. -/

/-- A node is put below a branch, over the node of that name. -/
theorem insert_of_branch {new : Node} {name : String} {node : Node} {path : Path}
    {kind : BranchKind} (h : node.view path = some (.branch kind)) :
    ∃ node', insert new name node path = .ok node' ∧
      node'.view = node.view.graft (path ++ [name]) new.view := by
  induction path generalizing node with
  | nil =>
    cases node with
    | leaf item => simp [face] at h
    | branch k children =>
      exact ⟨_, rfl, view_branch_insert_eq ..⟩
  | cons segment rest ih =>
    cases node with
    | leaf item => simp at h
    | branch k children =>
      rw [view_branch_cons] at h
      cases hfound : Named.find? segment children with
      | none => simp [hfound] at h
      | some child =>
        rw [hfound, Option.bind_some] at h
        obtain ⟨child', hok, hview⟩ := ih h
        refine ⟨.branch k (Named.insert segment child' children), ?_,
          view_branch_graft hfound hview⟩
        simp only [insert, hfound, hok]

/-- A node is put nowhere else than below a branch. -/
theorem insert_refused {new : Node} {name : String} {node : Node} {path : Path}
    (h : ∀ kind, node.view path ≠ some (.branch kind)) :
    ∃ fault, insert new name node path = .error fault := by
  induction path generalizing node with
  | nil =>
    cases node with
    | leaf item => exact ⟨_, rfl⟩
    | branch k children => exact absurd rfl (h k)
  | cons segment rest ih =>
    cases node with
    | leaf item => exact ⟨_, rfl⟩
    | branch k children =>
      cases hfound : Named.find? segment children with
      | none => exact ⟨.placeMissing segment, by simp only [insert, hfound]⟩
      | some child =>
        have hchild : ∀ kind, child.view rest ≠ some (.branch kind) := by
          intro kind hkind
          apply h kind
          rw [view_branch_cons, hfound, Option.bind_some, hkind]
        obtain ⟨fault, hfault⟩ := ih hchild
        exact ⟨fault, by simp only [insert, hfound, hfault]⟩

/-- A node that is there is taken away with all that is below it. -/
theorem detach?_of_get? {node sub : Node} {path : Path} (hne : path ≠ [])
    (h : node.get? path = some sub) :
    ∃ rest, node.detach? path = some (sub, rest) ∧ rest.view = node.view.prune path := by
  induction path generalizing node with
  | nil => exact absurd rfl hne
  | cons segment rest ih =>
    cases node with
    | leaf item => simp [get?] at h
    | branch k children =>
      cases hfound : Named.find? segment children with
      | none => simp [get?, hfound] at h
      | some child =>
        simp only [get?, hfound] at h
        cases rest with
        | nil =>
          obtain rfl : child = sub := by
            cases child <;> simpa [get?] using h
          exact ⟨.branch k (Named.erase segment children), by simp [detach?, hfound],
            view_branch_erase_eq ..⟩
        | cons next more =>
          obtain ⟨left, hok, hview⟩ := ih (by simp) h
          refine ⟨.branch k (Named.insert segment left children), by simp [detach?, hfound, hok],
            view_branch_graft hfound hview⟩

/-- Where no node is, none is taken away. -/
theorem detach?_of_get?_none {node : Node} {path : Path} (h : node.get? path = none) :
    node.detach? path = none := by
  induction path generalizing node with
  | nil => cases node <;> simp [get?] at h
  | cons segment rest ih =>
    cases node with
    | leaf item => rfl
    | branch k children =>
      cases hfound : Named.find? segment children with
      | none => cases rest <;> simp [detach?, hfound]
      | some child =>
        simp only [get?, hfound] at h
        cases rest with
        | nil => cases child <;> simp [get?] at h
        | cons next more => simp [detach?, hfound, ih h]

/-- Nothing is altered where no node is. -/
theorem alter_of_get?_none {change : Node → Except Fault Node} {node : Node} {path : Path}
    (h : node.get? path = none) : node.alter change path = .ok node := by
  induction path generalizing node with
  | nil => cases node <;> simp [get?] at h
  | cons segment rest ih =>
    cases node with
    | leaf item => rfl
    | branch k children =>
      cases hfound : Named.find? segment children with
      | none => simp only [alter, hfound]
      | some child =>
        simp only [get?, hfound] at h
        simp only [alter, hfound, ih h]
        rw [Named.insert_of_find? hfound]

/-- A node is refused to be altered as the change refuses it. -/
theorem alter_refused {change : Node → Except Fault Node} {node sub : Node} {path : Path}
    {fault : Fault} (h : node.get? path = some sub) (hc : change sub = .error fault) :
    node.alter change path = .error fault := by
  induction path generalizing node with
  | nil =>
    obtain rfl : node = sub := by cases node <;> simpa [get?] using h
    cases node <;> simpa [alter] using hc
  | cons segment rest ih =>
    cases node with
    | leaf item => simp [get?] at h
    | branch k children =>
      cases hfound : Named.find? segment children with
      | none => simp [get?, hfound] at h
      | some child =>
        simp only [get?, hfound] at h
        simp only [alter, hfound, ih h]

/-- A node that is altered is seen changed, and what is not below it is seen as before. -/
theorem alter_of_get? {change : Node → Except Fault Node} {node sub sub' : Node} {path : Path}
    (h : node.get? path = some sub) (hc : change sub = .ok sub') :
    ∃ node', node.alter change path = .ok node' ∧
      node'.view = node.view.graft path sub'.view := by
  induction path generalizing node with
  | nil =>
    obtain rfl : node = sub := by cases node <;> simpa [get?] using h
    exact ⟨sub', by cases node <;> simpa [alter] using hc, (graft_nil_path ..).symm⟩
  | cons segment rest ih =>
    cases node with
    | leaf item => simp [get?] at h
    | branch k children =>
      cases hfound : Named.find? segment children with
      | none => simp [get?, hfound] at h
      | some child =>
        simp only [get?, hfound] at h
        obtain ⟨child', hok, hview⟩ := ih h
        exact ⟨.branch k (Named.insert segment child' children),
          by simp only [alter, hfound, hok], view_branch_graft hfound hview⟩

end TaskTree.Node
