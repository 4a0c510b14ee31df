import TaskTree.Proofs.Graph.Likeness
import TaskTree.Proofs.Graph.Names
import TaskTree.Proofs.Node.Depth

/-!
# How deep commands make a graph

Nothing that commands do asks how deep a graph is, but what reads its snapshot does: nodes come
back from a few levels only, and text from some more.  What comes of reading the snapshot of a
graph is told by its depth alone (`ofSnapshot_snapshot_eq`).

Depth is followed through commands in what is seen.  A created node ends a path, which is as long
as it is; a moved node takes all that is below it along, so that the longest path there grows by
what stands above it at its new place.  A command that is done keeps a graph within some levels
exactly if it reaches no further (`isNested_execute_iff`).
-/

namespace TaskTree

namespace Node.View

/-- No path on which something is seen has more names than this. -/
def IsWithin (levels : Nat) (view : View) : Prop :=
  ∀ path, (view path).isSome → path.length ≤ levels

variable {view : View} {path : Path} {levels : Nat}

/-- Something that is put at the end of a path may reach as far down as levels are left. -/
theorem IsWithin.graft (h : view.IsWithin levels) {top : View}
    (htop : ∀ q, (top q).isSome → path.length + q.length ≤ levels) :
    IsWithin levels (View.graft view path top) := by
  intro p hseen
  by_cases hbegins : path <+: p
  · obtain ⟨q, rfl⟩ := hbegins
    rw [graft_append_path] at hseen
    rw [List.length_append]
    exact htop q hseen
  · rw [graft_elsewhere hbegins] at hseen
    exact h p hseen

/-- Pruning makes nothing deeper. -/
theorem IsWithin.prune (h : view.IsWithin levels) (path : Path) :
    IsWithin levels (View.prune view path) :=
  h.graft fun _ hseen => by cases hseen

/-- A bare node grafted within the levels stays within them. -/
theorem IsWithin.graft_bare (h : view.IsWithin levels) (hpath : path.length ≤ levels)
    {node : Node} (hbare : node.children = []) : IsWithin levels (View.graft view path node.view) := by
  refine h.graft fun q hseen => ?_
  cases q with
  | nil => exact hpath
  | cons segment rest =>
    rw [view_cons_of_bare hbare] at hseen
    cases hseen

/-! The commands one after another. -/

/-- A bare node created within the levels stays within them. -/
theorem IsWithin.created (h : view.IsWithin levels) (hpath : path.length ≤ levels) {node : Node}
    (hbare : node.children = []) : IsWithin levels (View.created view path node) := by
  unfold View.created
  split
  · exact h.graft_bare hpath hbare
  · exact h

/-- Toggling makes nothing deeper. -/
theorem IsWithin.toggled (h : view.IsWithin levels) (path : Path) :
    IsWithin levels (View.toggled view path) := by
  unfold View.toggled
  split
  · next item hitem => exact h.graft_bare (h path (by rw [hitem]; rfl)) rfl
  · exact h

/-- A renamed item stands as deep as before. -/
theorem IsWithin.updated (h : view.IsWithin levels) (path : Path) (item : Item) :
    IsWithin levels (View.updated view path item) := by
  unfold View.updated
  split
  · next hcan =>
    obtain ⟨hne, ⟨old, hitem⟩, -⟩ := hcan
    have hpath := h path (by rw [hitem]; rfl)
    have hsame : (renamed path item.title).length = path.length := by
      have := List.length_pos_iff.2 hne
      rw [renamed, List.length_append, List.length_dropLast, List.length_singleton]
      omega
    exact (h.prune path).graft_bare (hsame ▸ hpath) rfl
  · exact h

/-- A moved node may be as deep as levels are left below its new place. -/
theorem IsWithin.moved (h : view.IsWithin levels) {src dest : Path}
    (hroom : ∀ q, (view (src ++ q)).isSome → dest.length + 1 + q.length ≤ levels) :
    IsWithin levels (View.moved view src dest) := by
  unfold View.moved
  split
  · next hcan =>
    obtain ⟨above, name, rfl⟩ := Path.exists_above hcan.nonempty
    rw [landing_concat]
    refine (h.prune _).graft fun q hseen => ?_
    rw [List.length_append, List.length_singleton]
    exact hroom q hseen
  · exact h

/-- Archiving makes nothing deeper. -/
theorem IsWithin.archived (h : view.IsWithin levels) (path : Path) :
    IsWithin levels (View.archived view path) := by
  unfold View.archived
  split
  · exact h.prune path
  · exact h

end Node.View

namespace Graph

variable {graph : Graph} {levels : Nat}

/-- Below no root more is seen than so many levels. -/
def View.IsWithin (levels : Nat) (seen : View) : Prop :=
  ∀ root, (seen root).IsWithin levels

/-- A top within the levels keeps the graph it is put in within them. -/
theorem View.IsWithin.put {seen : View} (h : seen.IsWithin levels) (root : String)
    {top : Node.View} (htop : top.IsWithin levels) : IsWithin levels (seen.put root top) := by
  intro r
  by_cases heq : root = r
  · subst heq
    rw [put_same]
    exact htop
  · rw [put_of_ne heq]
    exact h r

/-- How deep a well-named graph is nested can be seen. -/
theorem isNested_iff (h : graph.IsWellNamed) : graph.IsNested levels ↔ graph.view.IsWithin levels := by
  constructor
  · intro hnested root path hseen
    cases hfound : Named.find? root graph with
    | none =>
      rw [view_of_find?_none hfound] at hseen
      cases hseen
    | some top =>
      rw [view_of_find? hfound] at hseen
      exact Nat.le_trans (Node.length_le_depth hseen) (hnested _ (Named.mem_of_find? hfound))
  · intro hseen entry hmem
    have hroot := hseen entry.1
    rw [view_of_find? (Named.find?_of_mem h.distinct hmem)] at hroot
    exact (Node.depth_le_iff (h.roots entry hmem)).2 hroot

/-- No node of a graph is deeper than the graph is nested. -/
theorem IsNested.depth_le (hnamed : graph.IsWellNamed) (h : graph.IsNested levels) {root : String}
    {path : Path} {node : Node} (hget : graph.get? root path = some node) :
    node.depth ≤ levels := by
  refine (Node.depth_le_iff (hnamed.get? hget)).2 fun q hseen => ?_
  rw [← view_of_get? hget q] at hseen
  have hwithin := (isNested_iff hnamed).1 h root (path ++ q) hseen
  rw [List.length_append] at hwithin
  omega

/-! Commands. -/

/-- The number of names on the longest path that a command makes, if it is done.  A moved node
takes what is below it along. -/
def reach (graph : Graph) : Command → Nat
  | .createSection _ path => path.length
  | .createItem _ path .. => path.length
  | .move root src dest => dest.length + 1 + ((graph.get? root src).map Node.depth).getD 0
  | _ => 0

/-- A move within the levels has room for each path it takes along. -/
theorem room_of_reach {root : String} {src dest : Path}
    (h : graph.reach (.move root src dest) ≤ levels) (q : Path)
    (hseen : (graph.view root (src ++ q)).isSome) : dest.length + 1 + q.length ≤ levels := by
  cases hget : graph.get? root src with
  | none =>
    rw [view_none_append (view_eq_none_iff.2 hget)] at hseen
    cases hseen
  | some node =>
    rw [view_of_get? hget] at hseen
    have hdepth := Node.length_le_depth hseen
    rw [reach, hget, Option.map_some, Option.getD_some] at h
    omega

/-- A command within the levels leaves a graph within them. -/
theorem View.IsWithin.after {command : Command} (h : graph.view.IsWithin levels)
    (hreach : graph.reach command ≤ levels) : IsWithin levels (graph.view.after command) := by
  cases command with
  | createRoot root =>
    rw [View.after, View.added]
    split
    · exact h
    · refine h.put root fun path hseen => ?_
      cases path with
      | nil => exact Nat.zero_le _
      | cons segment rest =>
        rw [Node.view_cons_of_bare rfl] at hseen
        cases hseen
  | createSection root path => exact h.put root ((h root).created hreach rfl)
  | createItem root path title description state =>
    exact h.put root ((h root).created hreach rfl)
  | updateItem root path title description state => exact h.put root ((h root).updated path _)
  | toggleItem root path => exact h.put root ((h root).toggled path)
  | move root src dest => exact h.put root ((h root).moved (room_of_reach hreach))
  | archive root path => exact h.put root ((h root).archived path)

/-- A graph that loses a node does not get deeper. -/
theorem IsNested.execute_of_losesNode (hnamed : graph.IsWellNamed) (h : graph.IsNested levels)
    {command : Command} (hloses : graph.LosesNode command) :
    (graph.execute command).graph.IsNested levels := by
  have hseen := (isNested_iff hnamed).1 h
  refine (isNested_iff (hnamed.execute command)).2 ?_
  cases command with
  | move root src dest =>
    change View.IsWithin levels (graph.move root src dest).graph.view
    rw [(view_losing_move hloses).2]
    exact hseen.put root ((hseen root).prune src)
  | _ => exact hloses.elim

/-- A command that reaches no further than a graph is nested leaves it so. -/
theorem IsNested.execute (hnamed : graph.IsWellNamed) (h : graph.IsNested levels)
    {command : Command} (hreach : graph.reach command ≤ levels) :
    (graph.execute command).graph.IsNested levels := by
  by_cases hloses : graph.LosesNode command
  · exact h.execute_of_losesNode hnamed hloses
  · refine (isNested_iff (hnamed.execute command)).2 ?_
    rw [view_execute hloses]
    exact ((isNested_iff hnamed).1 h).after hreach

/-- A command that is refused does not make a graph deeper, however far it would have reached. -/
theorem IsNested.execute_of_refused (hnamed : graph.IsWellNamed) (h : graph.IsNested levels)
    {command : Command} (hrefused : (graph.execute command).fault?.isSome) :
    (graph.execute command).graph.IsNested levels := by
  by_cases hloses : graph.LosesNode command
  · exact h.execute_of_losesNode hnamed hloses
  · rw [graph_execute_of_refused hloses hrefused]
    exact h

/-- Where a node was created, something is seen. -/
theorem isSome_view_create {root : String} {path : Path} {node : Node}
    (hdone : (Change.ofExcept graph (graph.create root path node)).fault? = none) :
    ((Change.ofExcept graph (graph.create root path node)).graph.view root path).isSome := by
  by_cases hcan : path ≠ [] ∧ (∀ segment ∈ path, Path.IsLegal segment) ∧
      (graph.view root).IsBranchAt path.dropLast
  · rw [view_create, put_same, Node.View.created, if_pos hcan, Node.graft_path, Node.view_nil]
    rfl
  · obtain ⟨fault, hfault⟩ := create_refused hcan node
    rw [hfault] at hdone
    cases hdone

/-- A move that is done brings the deepest path of its node below the destination. -/
theorem exists_view_move (hnamed : graph.IsWellNamed) {root : String} {src dest : Path}
    (hdone : (graph.move root src dest).fault? = none) :
    ∃ path, ((graph.move root src dest).graph.view root path).isSome ∧
      path.length = graph.reach (.move root src dest) := by
  have hmovable := (move_succeeds_iff graph root src dest).1 hdone
  obtain ⟨above, name, rfl⟩ := Path.exists_above hmovable.nonempty
  cases hget : graph.get? root (above ++ [name]) with
  | none =>
    have hfound := hmovable.found
    rw [view_eq_none_iff.2 hget] at hfound
    cases hfound
  | some node =>
    obtain ⟨path, hseen, hlength⟩ := Node.exists_view_of_depth (hnamed.get? hget)
    refine ⟨dest ++ [name] ++ path, ?_, ?_⟩
    · rw [(move_of_movable hmovable).2, put_same, Node.View.moved, if_pos hmovable,
        Node.View.landing_concat, Node.graft_append_path, view_of_get? hget]
      exact hseen
    · rw [reach, hget, Option.map_some, Option.getD_some, List.length_append, List.length_append,
        List.length_singleton, hlength]

/-- A command that is done has made a path as long as its reach. -/
theorem reach_le_of_done (hnamed : graph.IsWellNamed) {command : Command}
    (hdone : (graph.execute command).fault? = none)
    (h : (graph.execute command).graph.IsNested levels) : graph.reach command ≤ levels := by
  have hseen := (isNested_iff (hnamed.execute command)).1 h
  cases command with
  | createSection root path => exact hseen root path (isSome_view_create hdone)
  | createItem root path title description state =>
    exact hseen root path (isSome_view_create hdone)
  | move root src dest =>
    obtain ⟨path, hpath, hlength⟩ := exists_view_move hnamed hdone
    exact hlength ▸ hseen root path hpath
  | _ => exact Nat.zero_le _

/-- **Depth goes by reach.**  A command that is done keeps a graph within some levels exactly if
it reaches no further. -/
theorem isNested_execute_iff (hnamed : graph.IsWellNamed) (h : graph.IsNested levels)
    {command : Command} (hdone : (graph.execute command).fault? = none) :
    (graph.execute command).graph.IsNested levels ↔ graph.reach command ≤ levels :=
  ⟨reach_le_of_done hnamed hdone, h.execute hnamed⟩

/-! Snapshots. -/

/-- The object of a graph is nested deeper than the graph by two levels. -/
theorem isNested_of_isTextual (h : Json.IsTextual (levels + 2) graph.toJson) :
    graph.IsNested levels := by
  rw [toJson_eq] at h
  cases h with
  | object distinct below =>
    intro entry hmem
    have hentry := below (entry.1, entry.2.toJson)
      (List.mem_map.2 ⟨entry, Named.mem_sorted.2 hmem, rfl⟩)
    exact Nat.lt_succ_iff.1 (Node.depth_lt_of_isTextual hentry)

/-- If some roots are refused, and all others are read, then so are the roots. -/
theorem rootsOfJson_refused {fault : Fault}
    (hread : ∀ entry ∈ graph, Node.ofJson entry.2.toJson = .ok entry.2.canonical ∨
      Node.ofJson entry.2.toJson = .error fault)
    (hrefused : ∃ entry ∈ graph, Node.ofJson entry.2.toJson = .error fault) :
    rootsOfJson (Named.mapThings Node.toJson graph) = .error fault := by
  induction graph with
  | nil =>
    obtain ⟨entry, hmem, -⟩ := hrefused
    cases hmem
  | cons first rest ih =>
    simp only [Named.mapThings, List.map_cons] at ih ⊢
    rw [rootsOfJson]
    rcases hread first (List.mem_cons_self ..) with hfirst | hfirst
    · have hlater : ∃ entry ∈ rest, Node.ofJson entry.2.toJson = .error fault := by
        obtain ⟨entry, hmem, hentry⟩ := hrefused
        rcases List.mem_cons.1 hmem with rfl | hmem
        · cases hfirst.symm.trans hentry
        · exact ⟨entry, hmem, hentry⟩
      simp only [hfirst, ih (fun e he => hread e (List.mem_cons_of_mem _ he)) hlater]
    · simp only [hfirst]

/-- The object of a graph is refused as too deep if the graph is nested deeper than nodes are
read. -/
theorem ofJson_of_deep (hnamed : graph.IsWellNamed)
    (hdeep : ¬ graph.IsNested (Node.nodeDepth - 1)) :
    ofJson graph.toJson = .error .graphTooDeep := by
  have hpos : 0 < Node.nodeDepth := by decide
  have hread : ∀ entry ∈ Named.sorted graph,
      Node.ofJson entry.2.toJson = .ok entry.2.canonical ∨
        Node.ofJson entry.2.toJson = .error .graphTooDeep := by
    intro entry hentry
    have hroot := hnamed.roots entry (Named.mem_sorted.1 hentry)
    rcases Nat.lt_or_ge entry.2.depth Node.nodeDepth with hless | hmore
    · exact .inl (Node.ofJsonAt_toJson hroot hless)
    · exact .inr (Node.ofJsonAt_of_deep hroot hmore)
  have hrefused : ∃ entry ∈ Named.sorted graph,
      Node.ofJson entry.2.toJson = .error .graphTooDeep := by
    refine Classical.byContradiction fun hnone => hdeep fun entry hmem => ?_
    refine Nat.le_of_not_lt fun hmore => hnone ⟨entry, Named.mem_sorted.2 hmem, ?_⟩
    exact Node.ofJsonAt_of_deep (hnamed.roots entry hmem) (by omega)
  rw [toJson_eq, ofJson, rootsOfJson_refused hread hrefused]

/-- What comes of reading the snapshot of a graph.  Its nodes have to be nested less deep than
its text. -/
def readBack (graph : Graph) : Except Failure Graph :=
  if graph.IsNested (Node.nodeDepth - 1) then .ok graph.canonical
  else if graph.IsNested (Json.textDepth - 2) then .error (.fault .graphTooDeep)
  else .error (.fault .snapshotTooDeep)

/-- **What a snapshot is read as.**  It is the graph with its names in order, unless the graph is
nested deeper than nodes are read; then the snapshot is refused as too deep. -/
theorem ofSnapshot_snapshot_eq (hnamed : graph.IsWellNamed) :
    ofSnapshot graph.snapshot = graph.readBack := by
  unfold readBack
  split
  · next hnested => exact ofSnapshot_snapshot hnamed hnested (by decide)
  · next hdeep =>
    split
    · next hnested =>
      have hread : Json.read Json.textDepth graph.toJson.pretty.toList = .ok graph.toJson :=
        Json.read_pretty (isTextual_toJson hnamed hnested)
      rw [ofSnapshot, ofChars, snapshot, hread]
      simp only [ofJson_of_deep hnamed hdeep, liftFault]
    · next htoo =>
      have hread : Json.read Json.textDepth graph.toJson.pretty.toList = .error (.deep .object) :=
        Json.read_pretty_of_deep (isTextual_toJson hnamed graph.isNested_depthBelow)
          fun htext => htoo (isNested_of_isTextual htext)
      rw [ofSnapshot, ofChars, snapshot, hread]

end Graph

end TaskTree
