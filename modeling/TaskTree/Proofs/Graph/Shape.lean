import TaskTree.Proofs.Graph.Names
import TaskTree.Proofs.Graph.Execute
import TaskTree.Proofs.Session

/-!
# The shape of a graph

A graph that grows from nothing by commands has users at its roots and nowhere
else; below them are sections and items, under names that a node may have
(`IsShaped`).  Names come into a graph in three ways, and each looks at them in
its own way: a new node at its whole path, a renamed item at its new name only,
and a moved node not at all.  The last two rely on the shape that is there:
the names on the way to a node that is seen are good names already.

The shape is told of what is seen, where a command replaces what is at and
below one path.  A move that loses its node is no such command, but removing a
node cannot harm the shape (`View.IsShaped.prune`).
-/

namespace TaskTree

namespace Node.View

/-- What is seen below a root, if there is one, has the shape of a user. -/
structure IsShaped (view : View) : Prop where
  top : ∀ face, view [] = some face → face = .branch .user
  inner : ∀ path, path ≠ [] → view path ≠ some (.branch .user)
  legal : ∀ path, (view path).isSome → ∀ segment ∈ path, Path.IsLegal segment

variable {view : View} {path : Path}

/-- The user node a new root starts with is shaped. -/
theorem isShaped_emptyUser : IsShaped Node.emptyUser.view where
  top face hface := by
    rw [view_nil] at hface
    exact (Option.some.inj hface).symm
  inner path hne hseen := by
    cases path with
    | nil => exact hne rfl
    | cons segment rest => cases hseen
  legal path hseen segment hmem := by
    cases path with
    | nil => cases hmem
    | cons segment rest => cases hseen

/-- A shaped view stays shaped if something is put at a path that is not the root, with no user
in it and good names down to each node of it. -/
theorem IsShaped.graft (h : view.IsShaped) (hne : path ≠ []) {top : View}
    (hinner : ∀ q, top q ≠ some (.branch .user))
    (hlegal : ∀ q, (top q).isSome → ∀ segment ∈ path ++ q, Path.IsLegal segment) :
    (View.graft view path top).IsShaped where
  top face hface := by
    obtain ⟨segment, rest, rfl⟩ := List.exists_cons_of_ne_nil hne
    rw [graft_cons_nil] at hface
    exact h.top face hface
  inner p hp := by
    by_cases hbegins : path <+: p
    · obtain ⟨q, rfl⟩ := hbegins
      rw [graft_append_path]
      exact hinner q
    · rw [graft_elsewhere hbegins]
      exact h.inner p hp
  legal p hseen := by
    by_cases hbegins : path <+: p
    · obtain ⟨q, rfl⟩ := hbegins
      rw [graft_append_path] at hseen
      exact hlegal q hseen
    · rw [graft_elsewhere hbegins] at hseen
      exact h.legal p hseen

/-- Removing a node below the root leaves a shaped view shaped. -/
theorem IsShaped.prune (h : view.IsShaped) (hne : path ≠ []) : (View.prune view path).IsShaped :=
  h.graft hne (fun _ hseen => by cases hseen) fun _ hseen => by cases hseen

/-- A node without nodes below it may be put under a good name, unless it is a user. -/
theorem IsShaped.graft_bare (h : view.IsShaped) (hne : path ≠ [])
    (hlegal : ∀ segment ∈ path, Path.IsLegal segment) {node : Node}
    (hface : node.face ≠ .branch .user) (hbare : node.children = []) :
    (View.graft view path node.view).IsShaped := by
  have hbelow := view_cons_of_bare hbare
  refine h.graft hne (fun q hseen => ?_) fun q hseen => ?_
  · cases q with
    | nil =>
      rw [view_nil] at hseen
      exact hface (Option.some.inj hseen)
    | cons segment rest =>
      rw [hbelow] at hseen
      cases hseen
  · cases q with
    | nil => rwa [List.append_nil]
    | cons segment rest =>
      rw [hbelow] at hseen
      cases hseen

/-- An item is never a root of a shaped view. -/
theorem IsShaped.ne_nil_of_item (h : view.IsShaped) {item : Item}
    (hitem : view path = some (.leaf item)) : path ≠ [] := by
  intro hnil
  subst hnil
  cases h.top _ hitem

/-! The commands one after another. -/

/-- A bare node other than a user keeps the shape where it is created. -/
theorem IsShaped.created (h : view.IsShaped) (path : Path) {node : Node}
    (hface : node.face ≠ .branch .user) (hbare : node.children = []) :
    (View.created view path node).IsShaped := by
  unfold View.created
  split
  · next hcan => exact h.graft_bare hcan.1 hcan.2.1 hface hbare
  · exact h

/-- Toggling keeps the shape. -/
theorem IsShaped.toggled (h : view.IsShaped) (path : Path) : (View.toggled view path).IsShaped := by
  unfold View.toggled
  split
  · next item hitem =>
    have hlegal := h.legal path (by rw [hitem]; rfl)
    exact h.graft_bare (h.ne_nil_of_item hitem) hlegal (by simp [face]) rfl
  · exact h

/-- A renamed item has the names above it from the place where it stood. -/
theorem IsShaped.updated (h : view.IsShaped) (path : Path) (item : Item) :
    (View.updated view path item).IsShaped := by
  unfold View.updated
  split
  · next hcan =>
    obtain ⟨hne, ⟨old, hitem⟩, hname⟩ := hcan
    have hold := h.legal path (by rw [hitem]; rfl)
    have hlegal : ∀ segment ∈ renamed path item.title, Path.IsLegal segment := by
      intro segment hmem
      rcases List.mem_append.1 hmem with habove | hlast
      · exact hold segment ((List.dropLast_sublist path).mem habove)
      · rw [List.mem_singleton.1 hlast]
        exact hname
    exact (h.prune hne).graft_bare (by simp [renamed]) hlegal (by simp [face]) rfl
  · exact h

/-- A moved node brings its name along, which was looked at when the node came there. -/
theorem IsShaped.moved (h : view.IsShaped) (src dest : Path) :
    (View.moved view src dest).IsShaped := by
  unfold View.moved
  split
  · next hcan =>
    obtain ⟨above, name, rfl⟩ := Path.exists_above hcan.nonempty
    have hlast := h.legal _ hcan.found name (by simp)
    have hdest := h.legal dest hcan.under.isSome
    rw [landing_concat]
    refine (h.prune (by simp)).graft (by simp) (fun q => h.inner _ (by simp)) fun q hseen => ?_
    intro segment hmem
    have hbelow := h.legal _ hseen
    simp only [List.mem_append, List.mem_singleton] at hmem hbelow
    rcases hmem with (habove | rfl) | hq
    · exact hdest segment habove
    · exact hlast
    · exact hbelow segment (.inr hq)
  · exact h

/-- Archiving keeps the shape. -/
theorem IsShaped.archived (h : view.IsShaped) (path : Path) :
    (View.archived view path).IsShaped := by
  unfold View.archived
  split
  · next hcan => exact h.prune hcan.1
  · exact h

/-! What is seen of the root itself. -/

/-- A graft below the top leaves the top as it is. -/
theorem graft_root (hne : path ≠ []) (view top : View) : View.graft view path top [] = view [] := by
  obtain ⟨segment, rest, rfl⟩ := List.exists_cons_of_ne_nil hne
  exact graft_cons_nil ..

/-- Creating leaves the top as it is. -/
theorem created_root (view : View) (path : Path) (node : Node) :
    View.created view path node [] = view [] := by
  unfold View.created
  split
  · next hcan => exact graft_root hcan.1 ..
  · rfl

/-- Toggling leaves the top of a shaped view as it is. -/
theorem IsShaped.toggled_root (h : view.IsShaped) (path : Path) :
    View.toggled view path [] = view [] := by
  cases hseen : view path with
  | none => simp only [View.toggled, hseen]
  | some face =>
    cases face with
    | branch kind => simp only [View.toggled, hseen]
    | leaf item =>
      have hne := h.ne_nil_of_item hseen
      simp only [View.toggled, hseen, graft_root hne]

/-- Updating leaves the top as it is. -/
theorem updated_root (view : View) (path : Path) (item : Item) :
    View.updated view path item [] = view [] := by
  unfold View.updated
  split
  · next hcan => rw [graft_root (by simp [renamed]), View.prune, graft_root hcan.1]
  · rfl

/-- Moving leaves the top as it is. -/
theorem moved_root (view : View) (src dest : Path) : View.moved view src dest [] = view [] := by
  unfold View.moved
  split
  · next hcan =>
    obtain ⟨above, name, rfl⟩ := Path.exists_above hcan.nonempty
    rw [landing_concat, graft_root (by simp), View.prune, graft_root (by simp)]
  · rfl

/-- Archiving leaves the top as it is. -/
theorem archived_root (view : View) (path : Path) : View.archived view path [] = view [] := by
  unfold View.archived
  split
  · next hcan => exact graft_root hcan.1 ..
  · rfl

end Node.View

namespace Graph

/-- What is seen below every root has the shape of a user. -/
def View.IsShaped (seen : View) : Prop :=
  ∀ root, (seen root).IsShaped

/-- A shaped top keeps the shape of the graph it is put in. -/
theorem View.IsShaped.put {seen : View} (h : seen.IsShaped) (root : String) {top : Node.View}
    (htop : top.IsShaped) : (seen.put root top).IsShaped := by
  intro r
  by_cases heq : root = r
  · subst heq
    rw [put_same]
    exact htop
  · rw [put_of_ne heq]
    exact h r

/-- An added root keeps the shape. -/
theorem View.IsShaped.added {seen : View} (h : seen.IsShaped) (root : String) :
    (seen.added root).IsShaped := by
  unfold View.added
  split
  · exact h
  · exact h.put root Node.View.isShaped_emptyUser

/-- The view after a command is shaped if the view before it was. -/
theorem View.IsShaped.after {seen : View} (h : seen.IsShaped) (command : Command) :
    (seen.after command).IsShaped := by
  cases command with
  | createRoot root => exact h.added root
  | createSection root path => exact h.put root ((h root).created path (by decide) rfl)
  | createItem root path title description state =>
    exact h.put root ((h root).created path (by simp [Node.face]) rfl)
  | updateItem root path title description state => exact h.put root ((h root).updated path _)
  | toggleItem root path => exact h.put root ((h root).toggled path)
  | move root src dest => exact h.put root ((h root).moved src dest)
  | archive root path => exact h.put root ((h root).archived path)

/-- A put that leaves the top of its root as it is leaves the tops of all roots. -/
theorem put_root {seen : View} {root : String} {top : Node.View} (h : top [] = seen root [])
    (r : String) : seen.put root top r [] = seen r [] := by
  by_cases heq : root = r
  · subst heq
    rw [put_same, h]
  · rw [put_of_ne heq]

/-- Only creating a root changes what is seen of a root itself. -/
theorem View.IsShaped.after_root {seen : View} (h : seen.IsShaped) {command : Command}
    (hkind : command.kind ≠ .createRoot) (r : String) : seen.after command r [] = seen r [] := by
  cases command with
  | createRoot root => exact absurd rfl hkind
  | createSection root path => exact put_root (Node.View.created_root ..) r
  | createItem root path title description state => exact put_root (Node.View.created_root ..) r
  | updateItem root path title description state => exact put_root (Node.View.updated_root ..) r
  | toggleItem root path => exact put_root ((h root).toggled_root path) r
  | move root src dest => exact put_root (Node.View.moved_root ..) r
  | archive root path => exact put_root (Node.View.archived_root ..) r

/-- A root is seen after its creation, and before it only if it was there. -/
theorem View.added_root (seen : View) (root r : String) :
    (seen.added root r []).isSome ↔ (seen r []).isSome ∨ root = r ∧ root ≠ "" := by
  unfold View.added
  split
  · next hrefused =>
    constructor
    · exact .inl
    · intro hcases
      rcases hcases with hthere | ⟨rfl, hne⟩
      · exact hthere
      · exact hrefused.resolve_left hne
  · next hdone =>
    have hne : root ≠ "" := fun heq => hdone (.inl heq)
    by_cases heq : root = r
    · subst heq
      simp [hne]
    · rw [put_of_ne heq]
      simp [heq]

/-- Users stand at the roots of a graph, and below them sections and items, under names that a
node may have; in a row of roots or of children each name stands once. -/
structure IsShaped (graph : Graph) : Prop where
  named : graph.IsWellNamed
  top : ∀ {root node}, graph.get? root [] = some node → node.face = .branch .user
  inner : ∀ {root path node}, path ≠ [] → graph.get? root path = some node →
    node.face = .branch .group ∨ ∃ item, node.face = .leaf item
  legal : ∀ {root path node}, graph.get? root path = some node →
    ∀ segment ∈ path, Path.IsLegal segment

/-- The shape is legal names and a shaped view. -/
theorem isShaped_iff {graph : Graph} :
    graph.IsShaped ↔ graph.IsWellNamed ∧ graph.view.IsShaped := by
  constructor
  · intro h
    refine ⟨h.named, fun root => ⟨fun face hface => ?_, fun path hne hseen => ?_, ?_⟩⟩
    · obtain ⟨node, hget, rfl⟩ := Option.map_eq_some_iff.1 hface
      exact h.top hget
    · obtain ⟨node, hget, hnode⟩ := Option.map_eq_some_iff.1 hseen
      rcases h.inner hne hget with hface | ⟨item, hface⟩
      · rw [hface] at hnode
        cases hnode
      · rw [hface] at hnode
        cases hnode
    · intro path hseen
      obtain ⟨face, hface⟩ := Option.isSome_iff_exists.1 hseen
      obtain ⟨node, hget, -⟩ := Option.map_eq_some_iff.1 hface
      exact h.legal hget
  · intro hshaped
    obtain ⟨hnamed, h⟩ := hshaped
    refine ⟨hnamed, fun {root node} hget => (h root).top _ (face_of_get? hget),
      fun {root path node} hne hget => ?_, fun {root path node} hget => (h root).legal path ?_⟩
    · have hface := (h root).inner path hne
      rw [face_of_get? hget] at hface
      cases node with
      | leaf item => exact .inr ⟨item, rfl⟩
      | branch kind children =>
        cases kind with
        | user => exact absurd rfl hface
        | group => exact .inl rfl
    · rw [face_of_get? hget]
      rfl

/-- The empty graph is shaped. -/
theorem isShaped_empty : empty.IsShaped where
  named := isWellNamed_empty
  top hget := by cases hget
  inner _ hget := by cases hget
  legal hget := by cases hget

/-- **The shape is kept.**  A command leaves a shaped graph shaped, whether it is done or
refused. -/
theorem IsShaped.execute {graph : Graph} (h : graph.IsShaped) (command : Command) :
    (graph.execute command).graph.IsShaped := by
  obtain ⟨hnamed, hseen⟩ := isShaped_iff.1 h
  refine isShaped_iff.2 ⟨hnamed.execute command, ?_⟩
  by_cases hloses : graph.LosesNode command
  · cases command with
    | move root src dest =>
      obtain ⟨hne, hview⟩ := view_losing_move hloses
      change (graph.move root src dest).graph.view.IsShaped
      rw [hview]
      exact hseen.put root ((hseen root).prune hne)
    | _ => exact hloses.elim
  · rw [view_execute hloses]
    exact hseen.after command

/-- Only creating a root changes what is seen of a root itself, also if the command is refused. -/
theorem IsShaped.view_root_execute {graph : Graph} (h : graph.IsShaped) {command : Command}
    (hkind : command.kind ≠ .createRoot) (r : String) :
    (graph.execute command).graph.view r [] = graph.view r [] := by
  by_cases hloses : graph.LosesNode command
  · cases command with
    | move root src dest =>
      obtain ⟨hne, hview⟩ := view_losing_move hloses
      change (graph.move root src dest).graph.view r [] = _
      rw [hview]
      exact put_root (Node.View.graft_root hne ..) r
    | _ => exact hloses.elim
  · rw [view_execute hloses]
    exact (isShaped_iff.1 h).2.after_root hkind r

/-- The roots are the names below which something is seen. -/
theorem mem_names_iff_view {graph : Graph} {root : String} :
    root ∈ Named.names graph ↔ (graph.view root []).isSome := by
  rw [Option.isSome_iff_ne_none, ne_eq, view_nil_eq_none_iff, Named.find?_eq_none_iff,
    Decidable.not_not]

/-- **Only creation changes the roots.**  After a command there are the roots that were there
before it, and the one that the command creates. -/
theorem IsShaped.mem_names_execute {graph : Graph} (h : graph.IsShaped) (command : Command)
    (root : String) : root ∈ Named.names (graph.execute command).graph ↔
      root ∈ Named.names graph ∨ command = .createRoot root ∧ root ≠ "" := by
  rw [mem_names_iff_view, mem_names_iff_view]
  by_cases hkind : command.kind = .createRoot
  · cases command with
    | createRoot name =>
      have hloses : ¬ graph.LosesNode (.createRoot name) := fun h => h
      rw [view_execute hloses, View.after, View.added_root, CommandOf.createRoot.injEq]
      refine or_congr_right ⟨?_, ?_⟩
      · rintro ⟨rfl, hne⟩
        exact ⟨rfl, hne⟩
      · rintro ⟨rfl, hne⟩
        exact ⟨rfl, hne⟩
    | _ => cases hkind
  · rw [h.view_root_execute hkind]
    have hother : command ≠ .createRoot root := fun heq => hkind (by rw [heq]; rfl)
    exact ⟨.inl, fun hcases => hcases.resolve_right fun hadded => hother hadded.1⟩

/-- A run of commands keeps the shape of a graph, and adds to its roots those that it creates. -/
theorem IsShaped.run {graph : Graph} (h : graph.IsShaped) (commands : List Command) :
    (graph.run commands).IsShaped ∧ ∀ root, root ∈ Named.names (graph.run commands) ↔
      root ∈ Named.names graph ∨ .createRoot root ∈ commands ∧ root ≠ "" := by
  induction commands generalizing graph with
  | nil => exact ⟨h, fun root => by simp [Graph.run]⟩
  | cons command rest ih =>
    obtain ⟨hshaped, hnames⟩ := ih (h.execute command)
    refine ⟨hshaped, fun root => (hnames root).trans ?_⟩
    rw [h.mem_names_execute, List.mem_cons, or_and_right, or_assoc, eq_comm]

end Graph

namespace Session

/-- What becomes of a session as commands are executed one after another, each done, refused by
the graph, or refused by the disk.  Between them the disk and the hub may change in any way. -/
inductive Executes (first : Session) : List Command → Session → Prop
  | start : Executes first [] first
  | execute {commands : List Command} {next : Session} (h : Executes first commands next)
      (disk : Disk) (hub : Events Command) (command : Command) (refused? : Option Disk.Refusal) :
      Executes first (commands ++ [command])
        ({ next with hub }.execute disk command refused?).session

variable {first session : Session} {commands : List Command}

/-- The graph after a run is what the commands make of the first one. -/
theorem Executes.graph_eq (h : Executes first commands session) :
    session.graph = first.graph.run commands := by
  induction h with
  | start => rfl
  | execute _ disk hub command refused? ih => rw [graph_execute, ih, Graph.run_concat]

/-- **Whole runs keep the shape.**  Whatever becomes of the commands, users stand at the roots
and nowhere else, sections and items below them under good names, and no root is lost; the next
command keeps all this again, and the very same roots if it is not one that creates a root. -/
theorem graph_stays_shaped (hfirst : first.graph.IsShaped)
    (h : Executes first commands session) :
    session.graph.IsShaped ∧
    (∀ root, root ∈ Named.names session.graph ↔
      root ∈ Named.names first.graph ∨ .createRoot root ∈ commands ∧ root ≠ "") ∧
    ∀ disk command refused?, let after := (session.execute disk command refused?).session
      after.graph.IsShaped ∧
      (∀ root ∈ Named.names session.graph, root ∈ Named.names after.graph) ∧
      (command.kind ≠ .createRoot → ∀ root,
        root ∈ Named.names after.graph ↔ root ∈ Named.names session.graph) := by
  obtain ⟨hshaped, hnames⟩ := hfirst.run commands
  rw [← h.graph_eq] at hshaped hnames
  refine ⟨hshaped, hnames, fun disk command refused? => ?_⟩
  simp only [graph_execute]
  refine ⟨hshaped.execute command, fun root hroot => ?_, fun hkind root => ?_⟩
  · exact (hshaped.mem_names_execute command root).2 (.inl hroot)
  · rw [Graph.mem_names_iff_view, Graph.mem_names_iff_view, hshaped.view_root_execute hkind]

/-- A session that starts without roots loses a section in a move, and keeps its root. -/
theorem graph_stays_shaped_lost :
    let vault : Vault := ⟨⟨.root, []⟩, 60, none⟩
    let first : Session := ⟨vault, .empty, .withCapacity 0⟩
    let commands : List Command := [.createRoot "r", .createSection "r" ["a"],
      .createItem "r" ["a", "b"] "b" "" .notDone, .updateItem "r" ["a", "b"] "c. d" "" .done,
      .move "r" ["a"] ["e"]]
    ∃ session, Executes first commands session ∧ session.graph = [("r", .emptyUser)] ∧
      session.graph.IsShaped ∧
      ∀ root, root ∈ Named.names
        (session.execute .empty (.archive "r" ["a"])).session.graph ↔ root = "r" := by
  intro vault first commands
  have hrun := (Executes.start : Executes first [] first)
    |>.execute .empty first.hub (.createRoot "r") none
    |>.execute .empty first.hub (.createSection "r" ["a"]) none
    |>.execute .empty first.hub (.createItem "r" ["a", "b"] "b" "" .notDone) none
    |>.execute .empty first.hub (.updateItem "r" ["a", "b"] "c. d" "" .done) none
    |>.execute .empty first.hub (.move "r" ["a"] ["e"]) none
  obtain ⟨hshaped, -, hnext⟩ := graph_stays_shaped Graph.isShaped_empty hrun
  have hgraph := hrun.graph_eq
  refine ⟨_, hrun, hgraph, hshaped, fun root => ?_⟩
  rw [(hnext .empty (.archive "r" ["a"]) none).2.2 (by decide) root, hgraph]
  exact List.mem_singleton

end Session

end TaskTree
