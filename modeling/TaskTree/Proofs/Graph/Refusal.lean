import TaskTree.Proofs.Graph.Faults

/-!
# What commands are refused for

The kind of fault with which a graph refuses a command follows from the fault itself, which is told
by what is seen of the graph (`kind_execute`).  Moves are left out here.  A command goes astray if
it asks for something that is not there and the graph does not complain of that, because it passes
over the command or comes upon an item on the way first.
-/

namespace TaskTree

namespace Path

/-- A name that no node may have is a fault of the command. -/
theorem kind_checkSegment {segment : String} {fault : Fault}
    (h : checkSegment segment = .error fault) : fault.kind = .invalidOperation := by
  unfold checkSegment at h
  split at h
  · cases h
    rfl
  · split at h
    · cases h
      rfl
    · split at h
      · cases h
        rfl
      · cases h

/-- A path that is not allowed is an invalid operation. -/
theorem kind_check {path : Path} {fault : Fault} (h : check path = .error fault) :
    fault.kind = .invalidOperation := by
  induction path with
  | nil => cases h
  | cons segment rest ih =>
    rw [check] at h
    split at h
    · next hsegment =>
      cases h
      exact kind_checkSegment hsegment
    · exact ih h

end Path

namespace Node.View

/-- An item is seen at the end of a path or on the way there. -/
def meetsItem (view : View) : Path → Bool
  | [] => decide (IsItemAt view [])
  | segment :: rest =>
    decide (IsItemAt view []) || meetsItem (fun q => view (segment :: q)) rest

/-- A path meets an item when one stands at some part of it. -/
theorem meetsItem_iff {view : View} {path : Path} :
    view.meetsItem path = true ↔ ∃ p, p <+: path ∧ IsItemAt view p := by
  induction path generalizing view with
  | nil =>
    rw [meetsItem, decide_eq_true_iff]
    constructor
    · intro hitem
      exact ⟨[], List.prefix_refl _, hitem⟩
    · intro hmeets
      obtain ⟨p, hp, hitem⟩ := hmeets
      rw [List.prefix_nil.1 hp] at hitem
      exact hitem
  | cons segment rest ih =>
    rw [meetsItem, Bool.or_eq_true, decide_eq_true_iff, ih]
    constructor
    · intro hmeets
      rcases hmeets with hitem | ⟨p, hp, hitem⟩
      · exact ⟨[], List.nil_prefix, hitem⟩
      · exact ⟨segment :: p, (List.cons_prefix_cons).2 ⟨rfl, hp⟩, hitem⟩
    · intro hmeets
      obtain ⟨p, hp, hitem⟩ := hmeets
      cases p with
      | nil => exact .inl hitem
      | cons first p =>
        obtain ⟨rfl, hbelow⟩ := List.cons_prefix_cons.1 hp
        exact .inr ⟨p, hbelow, hitem⟩

/-- Nothing is met where nothing is seen. -/
theorem meetsItem_of_none {view : View} (h : ∀ path, view path = none) (path : Path) :
    view.meetsItem path = false := by
  rw [Bool.eq_false_iff]
  intro hmeets
  obtain ⟨p, -, item, hitem⟩ := meetsItem_iff.1 hmeets
  rw [h p] at hitem
  cases hitem

/-- The path leads to a place that a node may have. -/
def IsFit (path : Path) : Prop :=
  path ≠ [] ∧ ∀ segment ∈ path, Path.IsLegal segment

instance (path : Path) : Decidable (IsFit path) :=
  inferInstanceAs (Decidable (path ≠ [] ∧ ∀ segment ∈ path, Path.IsLegal segment))

/-- What putting a node at a path is refused for. -/
def creation? (view : View) (path : Path) : Option FaultKind :=
  if IsFit path then
    match view path.dropLast with
    | some (.branch _) => none
    | some (.leaf _) => some .invalidOperation
    | none => some (if view.meetsItem path.dropLast then .invalidOperation else .notFound)
  else some .invalidOperation

/-- What replacing the item at a path by one with a title is refused for. -/
def update? (view : View) (path : Path) (title : String) : Option FaultKind :=
  if path = [] then none
  else
    match view path.dropLast with
    | none => none
    | some (.leaf _) => some .invalidOperation
    | some (.branch _) =>
      match view path with
      | none => none
      | some (.branch _) => some .invalidOperation
      | some (.leaf _) =>
        if Path.IsLegal (Path.nameOfTitle title) then none else some .invalidOperation

/-- What putting the item at a path in its other state is refused for. -/
def toggle? (view : View) (path : Path) : Option FaultKind :=
  match view path with
  | some (.branch _) => some .invalidOperation
  | _ => none

/-- What removing the node at a path is refused for. -/
def removal? (view : View) (path : Path) : Option FaultKind :=
  if path ≠ [] ∧ (view path).isSome then none else some .notFound

end Node.View

namespace Graph

/-- What a command is refused for, if it is no move. -/
def View.refusal? (seen : View) : Command → Option FaultKind
  | .createRoot root =>
    if root = "" then some .invalidOperation
    else if (seen root []).isSome then some .alreadyExists
    else none
  | .createSection root path | .createItem root path .. => (seen root).creation? path
  | .updateItem root path title .. => (seen root).update? path title
  | .toggleItem root path => (seen root).toggle? path
  | .archive root path => (seen root).removal? path
  | .move .. => none

/-- The command asks for something that is not there, and the graph does not complain of that.
It passes over a command for an item below a root that is not there, and where a node is put
below an item, it complains of the item. -/
def View.Astray (seen : View) : Command → Prop
  | .createSection root path | .createItem root path .. =>
    Node.View.IsFit path ∧ seen root path.dropLast = none ∧
      (seen root).meetsItem path.dropLast = true
  | .updateItem root path .. => path ≠ [] ∧ seen root [] = none
  | .toggleItem root _ => seen root [] = none
  | _ => False

end Graph

/-! From faults to their kinds. -/

namespace Node

/-- A node cannot be put below an item, nor where nothing is. -/
theorem kind_obstacle? (node : Node) (path : Path) :
    (node.view.obstacle? path).map Fault.kind =
      match node.view path with
      | some (.branch _) => none
      | some (.leaf _) => some .invalidOperation
      | none => some (if node.view.meetsItem path then .invalidOperation else .notFound) := by
  induction path generalizing node with
  | nil => cases node <;> rfl
  | cons segment rest ih =>
    cases node with
    | leaf item =>
      have hitem : View.IsItemAt (Node.leaf item).view [] := ⟨item, rfl⟩
      simp [View.obstacle?, View.meetsItem, hitem, face, Fault.kind]
    | branch kind children =>
      have hhere : ¬ View.IsItemAt (Node.branch kind children).view [] := by
        rintro ⟨item, hitem⟩
        cases hitem
      rw [View.obstacle?, View.meetsItem, decide_eq_false hhere, Bool.false_or, view_nil]
      cases hfound : Named.find? segment children with
      | none =>
        have hnone : ∀ q, (Node.branch kind children).view (segment :: q) = none := by
          intro q
          rw [view_branch_cons, hfound, Option.bind_none]
        rw [View.meetsItem_of_none hnone, hnone, hnone]
        rfl
      | some child =>
        have hbelow : (fun q => (Node.branch kind children).view (segment :: q)) = child.view :=
          view_branch_child hfound
        have hsegment : (Node.branch kind children).view [segment] = some child.face :=
          (congrFun hbelow []).trans (view_nil child)
        rw [hbelow, hsegment, congrFun hbelow rest]
        exact ih child

end Node

namespace Node.View

variable (view : View) (root : String) (path : Path)

/-- A root is refused when its name is empty or taken. -/
theorem kind_rootFault? : (view.rootFault? root).map Fault.kind =
    if root = "" then some .invalidOperation
    else if (view []).isSome then some .alreadyExists
    else none := by
  unfold rootFault?
  split
  · rfl
  · split <;> rfl

/-- The kind of fault that refuses a toggle. -/
theorem kind_toggleFault? : (view.toggleFault? root path).map Fault.kind = view.toggle? path := by
  unfold toggleFault? toggle?
  cases view path with
  | none => rfl
  | some face => cases face <;> rfl

/-- The kind of fault that refuses an update. -/
theorem kind_updateFault? (title : String) :
    (view.updateFault? root path title).map Fault.kind = view.update? path title := by
  unfold updateFault? update?
  split
  · rfl
  · cases view path.dropLast with
    | none => rfl
    | some parent =>
      cases parent with
      | leaf item => rfl
      | branch kind =>
        cases view path with
        | none => rfl
        | some face =>
          cases face with
          | branch kind' => rfl
          | leaf item =>
            cases hcheck : Path.checkSegment (Path.nameOfTitle title) with
            | error fault =>
              simp [Path.not_isLegal_of_checkSegment hcheck, Path.kind_checkSegment hcheck]
            | ok u => simp [Path.checkSegment_eq_ok_iff.1 hcheck]

/-- The kind of fault that refuses a removal. -/
theorem kind_removalFault? : (view.removalFault? path).map Fault.kind = view.removal? path := by
  unfold removalFault? removal?
  split <;> rfl

end Node.View

namespace Graph

/-- Creating is refused with the kind that the view tells. -/
theorem kind_create (graph : Graph) (root : String) (path : Path) (node : Node) :
    (Change.ofExcept graph (graph.create root path node)).fault?.map Fault.kind =
      (graph.view root).creation? path := by
  rw [fault?_ofExcept, faultOf_create]
  unfold Node.View.creation? Node.View.creationFault?
  by_cases hne : path = []
  · rw [if_pos hne, if_neg fun hfit => hfit.1 hne]
    rfl
  · rw [if_neg hne]
    cases hcheck : Path.check path with
    | error fault =>
      have hnot : ¬ Node.View.IsFit path := fun hfit => by
        rw [Path.check_eq_ok_iff.2 hfit.2] at hcheck
        cases hcheck
      rw [if_neg hnot]
      exact congrArg some (Path.kind_check hcheck)
    | ok u =>
      rw [if_pos ⟨hne, Path.check_eq_ok_iff.1 hcheck⟩]
      cases hfound : Named.find? root graph with
      | none =>
        rw [view_of_find?_none hfound, Node.View.meetsItem_of_none fun _ => rfl]
        rfl
      | some top =>
        rw [view_of_find? hfound, Node.view_nil]
        exact top.kind_obstacle? path.dropLast

/-- Updating is refused with the kind that the view tells. -/
theorem kind_updateItem (graph : Graph) (root : String) (path : Path) (item : Item) :
    (Change.ofExcept graph (graph.updateItem root path (.leaf item))).fault?.map Fault.kind =
      (graph.view root).update? path item.title := by
  rw [fault?_updateItem, Node.View.kind_updateFault?]

/-- A graph refuses a root for its name, never for what it is read from. -/
theorem createRoot_ne_parse {graph : Graph} {root : String} {fault : Fault}
    (h : graph.createRoot root = .error fault) : fault.kind ≠ .parse := by
  unfold createRoot at h
  split at h
  · cases h
    exact nofun
  · split at h
    · cases h
      exact nofun
    · cases h

/-- A graph refuses a node for where it is to stand, never for what it is read from. -/
theorem create_ne_parse {graph : Graph} {root : String} {path : Path} {node : Node}
    {fault : Fault} (h : graph.create root path node = .error fault) : fault.kind ≠ .parse := by
  have hkind := graph.kind_create root path node
  rw [h] at hkind
  intro hparse
  change some fault.kind = _ at hkind
  rw [hparse] at hkind
  unfold Node.View.creation? at hkind
  split at hkind
  · split at hkind
    · cases hkind
    · cases hkind
    · split at hkind
      · cases hkind
      · cases hkind
  · cases hkind

/-- **What a graph refuses commands for** can be told from what is seen of it. -/
theorem kind_execute (graph : Graph) {command : Command} (hmove : command.kind ≠ .move) :
    (graph.execute command).fault?.map Fault.kind = graph.view.refusal? command := by
  cases command with
  | createRoot root =>
    rw [execute, fault?_createRoot]
    exact Node.View.kind_rootFault? ..
  | createSection root path => exact graph.kind_create root path .emptySection
  | createItem root path title description state =>
    exact graph.kind_create root path (.leaf ⟨title, description, state⟩)
  | updateItem root path title description state =>
    exact graph.kind_updateItem root path ⟨title, description, state⟩
  | toggleItem root path =>
    rw [execute, fault?_toggleItem]
    exact Node.View.kind_toggleFault? ..
  | move root src dest => exact (hmove rfl).elim
  | archive root path =>
    rw [execute, fault?_delete]
    exact Node.View.kind_removalFault? ..

/-- What goes astray is refused for something else, or not at all. -/
theorem refusal_of_astray (graph : Graph) {command : Command}
    (h : graph.view.Astray command) : graph.view.refusal? command ≠ some .notFound := by
  have hcreation : ∀ root path, Node.View.IsFit path → graph.view root path.dropLast = none →
      (graph.view root).meetsItem path.dropLast = true →
      (graph.view root).creation? path ≠ some .notFound := by
    intro root path hfit hnone hmeets
    rw [Node.View.creation?, if_pos hfit, hnone, hmeets]
    decide
  cases command with
  | createSection root path => exact hcreation root path h.1 h.2.1 h.2.2
  | createItem root path title description state => exact hcreation root path h.1 h.2.1 h.2.2
  | updateItem root path title description state =>
    have hnone : graph.view root path.dropLast = none := by
      rw [← List.nil_append path.dropLast]
      exact view_none_append h.2 path.dropLast
    simp only [View.refusal?, Node.View.update?, if_neg h.1, hnone]
    exact fun heq => by cases heq
  | toggleItem root path =>
    have hnone : graph.view root path = none := view_none_append h path
    simp only [View.refusal?, Node.View.toggle?, hnone]
    exact fun heq => by cases heq
  | createRoot root => exact h.elim
  | move root src dest => exact h.elim
  | archive root path => exact h.elim

end Graph

end TaskTree
