import TaskTree.Proofs.Graph.Refusal
import TaskTree.Proofs.Graph.Shape
import TaskTree.Proofs.Session.Depth
import TaskTree.Proofs.Store.Outcome
import TaskTree.Proofs.Tables.Writes

/-!
# Reading stores

What is found in a store is well named (`Store.IsWellNamed.get`).  Tables make the node anew for
whoever asks for it, and a snapshot hands out a copy, which cannot be made of a node that is nested
too deeply (`Session.get_cases`).  So in two stores that are alike the same is found, unless it is
too deep to be copied: then it is found in the tables, and the snapshot has a mishap
(`Store.Alike.get`).  This is all that tells two stores apart that agree (`Store.agree`), and it
takes more commands that create than there are levels to be copied.
-/

namespace TaskTree

/-! Rows with texts. -/

/-- The fields of the item in a row are texts, if the row holds an item.  Rows that no command has
written may hold other values for a title and a description. -/
def Row.HoldsTexts (row : Row) : Prop :=
  ∀ read fields, row.read = .ok read → read.fields = .ok fields → fields.item?.isSome

/-- All active rows of items hold texts. -/
def Tables.HoldsTexts (tables : Tables) : Prop :=
  ∀ row ∈ tables.rows, row.active = true → row.kind = .item → row.HoldsTexts

namespace Row

/-- A row that keeps an item holds its texts. -/
theorem IsKept.holdsTexts {row : Row} (h : row.IsKept) (hkind : row.kind = .item) :
    row.HoldsTexts := by
  intro read fields hread hfields
  rcases h with ⟨hgroup, -⟩ | ⟨-, item, hcontent⟩
  · cases hgroup.symm.trans hkind
  · obtain ⟨read', hread', -, hitem⟩ := read_item hcontent
    obtain rfl := Except.ok.inj (hread.symm.trans hread')
    obtain rfl := Except.ok.inj (hfields.symm.trans hitem)
    rfl

/-- A row that holds texts is never refused for its title or its description. -/
theorem HoldsTexts.node {row : Row} (h : row.kind = .item → row.HoldsTexts) {read : ReadRow}
    (hread : row.read = .ok read) {fault : Fault} : read.node ≠ .error (.fault fault) := by
  have hrow := row_of_read hread
  intro hnode
  unfold ReadRow.node at hnode
  split at hnode
  · cases hnode
  · next hkind =>
    rw [hrow] at hkind
    split at hnode
    · cases hnode
    · next fields hfields =>
      have hitem := h hkind read fields hread hfields
      split at hnode
      · next hnone =>
        rw [hnone] at hitem
        cases hitem
      · cases hnode

end Row

namespace Tables

/-! Faults of reading. -/

/-- The graph of a root cannot be begun, or it is what the rows that are read add to the root. -/
theorem graphOf_cases (tables : Tables) (root : String) :
    (∃ mishap, tables.graphOf root = .error (.mishap mishap)) ∨
      (∃ fault, Graph.empty.createRoot root = .error fault ∧
        tables.graphOf root = .error (.fault fault)) ∨
      ∃ reads start, tables.list root = .ok reads ∧ Graph.empty.createRoot root = .ok start ∧
        tables.graphOf root = addRows root reads start := by
  unfold graphOf
  cases tables.list root with
  | error mishap => exact .inl ⟨mishap, rfl⟩
  | ok reads =>
    cases Graph.empty.createRoot root with
    | error fault => exact .inr (.inl ⟨fault, rfl, rfl⟩)
    | ok start => exact .inr (.inr ⟨reads, start, rfl, rfl, rfl⟩)

/-- Nothing is found for want of a root, or what the graph of the root holds. -/
theorem get_cases (tables : Tables) (root : String) (path : Path) :
    tables.get root path = .ok none ∨
      tables.get root path = (tables.graphOf root).map fun graph => graph.get? root path.clean := by
  unfold get
  split
  · exact .inr rfl
  · exact .inl rfl

/-- Rows that are read come from rows. -/
theorem exists_row_of_readAll {rows : List Row} {reads : List ReadRow}
    (h : readAll rows = .ok reads) : ∀ read ∈ reads, ∃ row ∈ rows, row.read = .ok read := by
  induction rows generalizing reads with
  | nil =>
    cases h
    exact fun _ hmem => nomatch hmem
  | cons row rest ih =>
    unfold readAll at h
    split at h
    · cases h
    · next read hread =>
      split at h
      · cases h
      · next reads' hrest =>
        cases h
        refine List.forall_mem_cons.2 ⟨⟨row, List.mem_cons_self .., hread⟩, fun other hmem => ?_⟩
        obtain ⟨row', hrow', hother⟩ := ih hrest other hmem
        exact ⟨row', List.mem_cons_of_mem _ hrow', hother⟩

/-- The listed rows of a root are rows of the tables, each read. -/
theorem exists_row_of_list {tables : Tables} {root : String} {reads : List ReadRow}
    (h : tables.list root = .ok reads) :
    ∀ read ∈ reads, ∃ row ∈ tables.rows, row.active = true ∧ row.read = .ok read := by
  unfold list at h
  cases hall : readAll (tables.rowsOf root) with
  | error mishap =>
    rw [hall] at h
    cases h
  | ok all =>
    rw [hall] at h
    obtain rfl := Except.ok.inj h
    intro read hmem
    obtain ⟨row, hrow, hread⟩ := exists_row_of_readAll hall read (List.mem_mergeSort.1 hmem)
    obtain ⟨hrows, hactive, -⟩ := mem_rowsOf_iff.1 hrow
    exact ⟨row, hrows, hactive, hread⟩

/-- Rows of texts are refused, if at all, for where they stand. -/
theorem addRows_ne_parse {root : String} {reads : List ReadRow} {graph : Graph} {fault : Fault}
    (hnodes : ∀ read ∈ reads, ∀ fault, read.node ≠ .error (.fault fault))
    (h : addRows root reads graph = .error (.fault fault)) : fault.kind ≠ .parse := by
  induction reads generalizing graph with
  | nil => cases h
  | cons read rest ih =>
    unfold addRows at h
    split at h
    · next failure hnode =>
      cases h
      exact (hnodes read (List.mem_cons_self ..) fault hnode).elim
    · split at h
      · next hcreate =>
        cases h
        exact Graph.create_ne_parse hcreate
      · exact ih (fun other hmem => hnodes other (List.mem_cons_of_mem _ hmem)) h

/-- The graph of a root is never refused for what its rows hold, if they hold texts. -/
theorem HoldsTexts.graphOf {tables : Tables} (h : tables.HoldsTexts) {root : String} {fault : Fault}
    (hgraph : tables.graphOf root = .error (.fault fault)) : fault.kind ≠ .parse := by
  rcases tables.graphOf_cases root with ⟨_, hmishap⟩ | ⟨other, hroot, hrefused⟩ |
    ⟨reads, start, hlist, -, hadded⟩
  · cases hmishap.symm.trans hgraph
  · cases hrefused.symm.trans hgraph
    exact Graph.createRoot_ne_parse hroot
  · refine addRows_ne_parse (fun read hmem fault => ?_) (hadded.symm.trans hgraph)
    obtain ⟨row, hrow, hactive, hread⟩ := exists_row_of_list hlist read hmem
    exact Row.HoldsTexts.node (h row hrow hactive) hread

/-- **No parse faults.**  Tables whose rows of items hold texts never fail to parse one. -/
theorem HoldsTexts.get {tables : Tables} (h : tables.HoldsTexts) {root : String} {path : Path}
    {fault : Fault} (hget : tables.get root path = .error (.fault fault)) :
    fault.kind ≠ .parse := by
  rcases tables.get_cases root path with hnone | hread
  · cases hnone.symm.trans hget
  · cases hgraph : tables.graphOf root with
    | ok graph =>
      rw [hread, hgraph] at hget
      cases hget
    | error failure =>
      rw [hread, hgraph] at hget
      cases hget
      exact h.graphOf hgraph

/-- Tables in which all rows keep what they should hold texts. -/
theorem AllKept.holdsTexts {tables : Tables} (h : tables.AllKept) : tables.HoldsTexts :=
  fun row hrow hactive hkind => (h row hrow hactive).holdsTexts hkind

/-! Names of what is read. -/

/-- The node of a row is well named. -/
theorem wellNamed_node {read : ReadRow} {node : Node} (h : read.node = .ok node) :
    node.WellNamed := by
  unfold ReadRow.node at h
  split at h
  · cases h
    exact .branch List.nodup_nil List.not_mem_nil fun _ hentry => by cases hentry
  · split at h
    · cases h
    · split at h
      · cases h
      · cases h
        exact .leaf _

/-- Rows add well-named nodes to a graph. -/
theorem isWellNamed_addRows {root : String} {reads : List ReadRow} {graph graph' : Graph}
    (h : addRows root reads graph = .ok graph') (hnamed : graph.IsWellNamed) :
    graph'.IsWellNamed := by
  induction reads generalizing graph with
  | nil =>
    cases h
    exact hnamed
  | cons read rest ih =>
    unfold addRows at h
    split at h
    · cases h
    · next node hnode =>
      split at h
      · cases h
      · next next hcreate =>
        exact ih h (hnamed.create root _ (wellNamed_node hnode) next hcreate)

/-- The graph of a root that is read from tables is well named. -/
theorem isWellNamed_graphOf {tables : Tables} {root : String} {graph : Graph}
    (h : tables.graphOf root = .ok graph) : graph.IsWellNamed := by
  rcases tables.graphOf_cases root with ⟨_, hmishap⟩ | ⟨_, -, hrefused⟩ |
    ⟨reads, start, -, hstart, hadded⟩
  · cases hmishap.symm.trans h
  · cases hrefused.symm.trans h
  · exact isWellNamed_addRows (hadded.symm.trans h)
      (Graph.isWellNamed_empty.createRoot root start hstart)

/-- What is found in tables is well named. -/
theorem wellNamed_get {tables : Tables} {root : String} {path : Path} {node : Node}
    (h : tables.get root path = .ok (some node)) : node.WellNamed := by
  rcases tables.get_cases root path with hnone | hread
  · cases hnone.symm.trans h
  · cases hgraph : tables.graphOf root with
    | error failure =>
      rw [hread, hgraph] at h
      cases h
    | ok graph =>
      rw [hread, hgraph] at h
      have hfound : graph.get? root path.clean = some node := Except.ok.inj h
      exact (isWellNamed_graphOf hgraph).get? hfound

end Tables

namespace Session

/-- What a session finds: nothing, a copy of the node, or a node that is too deep to be copied. -/
theorem get_cases (session : Session) (root : String) (path : Path) :
    (session.graph.get? root path.clean = none ∧ session.get root path = .ok none) ∨
      (∃ node, session.graph.get? root path.clean = some node ∧ node.depth ≤ Node.copyDepth ∧
        session.get root path = .ok (some node)) ∨
      (∃ node, session.graph.get? root path.clean = some node ∧ Node.copyDepth < node.depth ∧
        session.get root path = .error (.mishap .nodeTooDeep)) := by
  unfold get
  cases session.graph.get? root path.clean with
  | none => exact .inl ⟨rfl, rfl⟩
  | some node =>
    rcases Nat.lt_or_ge Node.copyDepth node.depth with hdeep | hcopied
    · refine .inr (.inr ⟨node, rfl, hdeep, ?_⟩)
      simp only [Node.copy_of_lt_depth hdeep]
    · refine .inr (.inl ⟨node, rfl, hcopied, ?_⟩)
      simp only [Node.copy_of_depth_le hcopied]

/-- A node is not copied if something is seen too far below it. -/
theorem get_of_deep {session : Session} {root : String} {path below : Path}
    (hseen : (session.graph.view root (path.clean ++ below)).isSome)
    (hlong : Node.copyDepth < below.length) :
    session.get root path = .error (.mishap .nodeTooDeep) := by
  rcases session.get_cases root path with ⟨hnone, -⟩ | ⟨node, hfound, hle, -⟩ | ⟨_, -, -, hdeep⟩
  · rw [Graph.view_none_append (Graph.view_eq_none_iff.2 hnone)] at hseen
    cases hseen
  · rw [Graph.view_of_get? hfound] at hseen
    have hdepth := Node.length_le_depth hseen
    omega
  · exact hdeep

end Session

namespace Store

/-- No node in the snapshot has the reserved name.  Tables with a row of that name are refused
whenever they are read, so nothing is asked of them. -/
def IsWellNamed : Store → Prop
  | .file session => session.graph.IsWellNamed
  | .tables _ => True

/-- The names of the roots, in the order in which they came. -/
def rootNames : Store → List String
  | .file session => Named.names session.graph
  | .tables store => store.tables.roots

variable {store : Store} {root : String} {path : Path}

/-- What is found in a store is well named. -/
theorem IsWellNamed.get (h : store.IsWellNamed) {node : Node}
    (hget : store.get root path = .ok (some node)) : node.WellNamed := by
  cases store with
  | file session =>
    rcases session.get_cases root path with ⟨-, hnone⟩ | ⟨found, hfound, -, hcopy⟩ | ⟨_, -, -, hdeep⟩
    · cases hnone.symm.trans hget
    · cases hcopy.symm.trans hget
      exact Graph.IsWellNamed.get? h hfound
    · cases hdeep.symm.trans hget
  | tables store => exact Tables.wellNamed_get hget

/-- The names that are told are the names of the roots in order. -/
theorem roots?_eq (store : Store) : store.roots? =
    match store.rootNames.mergeSort fun a b => decide (a ≤ b) with
    | [] => none
    | names => some names := by
  cases store <;> rfl

/-- Nothing is told rather than no names. -/
theorem roots?_ne_nil (store : Store) : store.roots? ≠ some [] := by
  rw [roots?_eq]
  split
  · exact nofun
  · next hne => exact fun h => hne (Option.some.inj h)

/-- There is nothing to tell exactly if there are no roots. -/
theorem roots?_eq_none_iff (store : Store) : store.roots? = none ↔ store.rootNames = [] := by
  have hlength : (store.rootNames.mergeSort fun a b => decide (a ≤ b)).length =
      store.rootNames.length := List.length_mergeSort _
  rw [roots?_eq]
  split
  · next hnil =>
    rw [hnil] at hlength
    exact iff_of_true rfl (List.length_eq_zero_iff.1 hlength.symm)
  · next hne =>
    refine iff_of_false nofun fun hnil => hne ?_
    rw [hnil, List.length_nil] at hlength
    rw [hnil]
    exact List.length_eq_zero_iff.1 hlength

/-- All rows of items in the tables hold texts.  A snapshot always does. -/
def HoldsTexts : Store → Prop
  | .file _ => True
  | .tables store => store.tables.HoldsTexts

/-- A store that holds texts never fails to parse what it finds. -/
theorem HoldsTexts.get (h : store.HoldsTexts) {fault : Fault}
    (hget : store.get root path = .error (.fault fault)) : fault.kind ≠ .parse := by
  cases store with
  | file session =>
    rcases session.get_cases root path with ⟨-, hnone⟩ | ⟨_, -, -, hcopy⟩ | ⟨_, -, -, hdeep⟩
    · cases hnone.symm.trans hget
    · cases hcopy.symm.trans hget
    · cases hdeep.symm.trans hget
  | tables store => exact Tables.HoldsTexts.get h hget

/-- Tables hold texts after any commands, if they were empty at first. -/
theorem holdsTexts_run {store : TableStore} (hstart : store.tables = .empty)
    (commands : List Command) : HoldsTexts (.tables (store.run commands)) :=
  (TableStore.allKept_run hstart commands).holdsTexts

/-! Stores that agree. -/

/-- **The same is found in both, or it is too deep.**  Of stores that are alike, the one with tables
finds whatever there is, and the one with a snapshot finds the same, exactly if it can be copied. -/
theorem Alike.get {session : Session} {tables : TableStore} (h : Alike session tables)
    (root : String) (path : Path) :
    ∃ found, (Store.tables tables).get root path = .ok found ∧
      ((∃ copied, (Store.file session).get root path = .ok copied ∧
          Option.Rel Node.Alike copied found) ↔
        ∀ node, found = some node → node.depth ≤ Node.copyDepth) ∧
      (∀ node, found = some node → Node.copyDepth < node.depth →
        (Store.file session).get root path = .error (.mishap .nodeTooDeep)) := by
  obtain ⟨found, hfound, hboth⟩ := h.mirrors.get root path
  have hflat : (Store.tables tables).get root path = .ok found := hfound
  refine ⟨found, hflat, ?_⟩
  have hsame : ∀ node node', session.graph.get? root path.clean = some node → found = some node' →
      node.depth = node'.depth := by
    intro node node' hnode hnode'
    rw [hnode, hnode'] at hboth
    cases hboth with
    | some halike =>
      rw [hnode'] at hflat
      have hnamed : (Store.tables tables).IsWellNamed := trivial
      exact halike.depth_eq (h.mirrors.named.get? hnode) (hnamed.get hflat)
  rcases session.get_cases root path with ⟨hnone, hget⟩ | ⟨node, hnode, hle, hget⟩ |
    ⟨node, hnode, hlt, hget⟩
  · rw [hnone] at hboth
    cases hboth with
    | none =>
      refine ⟨iff_of_true ⟨none, hget, .none⟩ ?_, ?_⟩
      · exact fun _ h => nomatch h
      · exact fun _ h => nomatch h
  · refine ⟨iff_of_true ⟨some node, hget, hnode ▸ hboth⟩ ?_, ?_⟩
    · intro node' hnode'
      rw [← hsame node node' hnode hnode']
      exact hle
    · intro node' hnode' hlt
      rw [← hsame node node' hnode hnode'] at hlt
      omega
  · obtain ⟨node', rfl⟩ : ∃ node', found = some node' := by
      rw [hnode] at hboth
      cases hboth with
      | some _ => exact ⟨_, rfl⟩
    have hdepth := hsame node node' hnode rfl
    refine ⟨iff_of_false ?_ ?_, fun _ _ _ => hget⟩
    · rintro ⟨copied, hcopied, -⟩
      cases hget.symm.trans hcopied
    · intro hall
      have hle := hall node' rfl
      omega

/-- A few commands nest nothing too deeply: it takes more of them that create than there are levels
to be copied. -/
theorem get_of_few {disk : Disk} {session session' : Session} {commands : List Command}
    (hgraph : session.graph = .empty)
    (hrun : (run disk (.file session) commands).2 = .file session')
    (hcount : commands.countP (·.creates) ≤ Node.copyDepth + 1) (root : String) (path : Path) :
    session'.get root path ≠ .error (.mishap .nodeTooDeep) := by
  obtain ⟨session'', hrun', hgraph'⟩ := graph_run disk session commands
  obtain rfl : session' = session'' := Store.file.inj (hrun.symm.trans hrun')
  rw [hgraph] at hgraph'
  have hsize := Graph.empty.size_run commands
  have hnone : Graph.empty.size = 0 := rfl
  have hnested : session'.graph.IsNested Node.copyDepth := by
    intro entry hmem
    rw [hgraph'] at hmem
    have := Graph.isNested_size _ entry hmem
    omega
  have hnamed : session'.graph.IsWellNamed := by
    rw [hgraph']
    exact Graph.isWellNamed_empty.run commands
  intro hget
  rcases session'.get_cases root path with ⟨-, hnothing⟩ | ⟨node, -, -, hcopy⟩ |
    ⟨node, hfound, hlt, -⟩
  · cases hnothing.symm.trans hget
  · cases hcopy.symm.trans hget
  · have hle := hnested.depth_le hnamed hfound
    omega

/-- **Stores agree, but for copies.**  Plain commands that lose no node, on an empty graph and on
empty tables, lead to stores of which the one with tables finds all nodes at all paths below all
roots.  The other finds the same exactly if it is not nested too deeply to be copied, and has a
mishap if it is; no more commands that create than there are levels to be copied nest nothing so
deeply.  Both tell the same roots, and move a node next or refuse to, both of them. -/
theorem agree (disk : Disk) (session : Session) (tables : TableStore)
    (hgraph : session.graph = .empty) (htables : tables.tables = .empty)
    (hwritable : tables.isReadOnly = false) (commands : List Command)
    (hplain : ∀ command ∈ commands, command.IsPlain)
    (hkept : Graph.empty.KeepsNodes commands) (root : String) (src dest : Path)
    (hsrc : src.Plain) (hdest : dest.Plain)
    (hstored : ∀ graph,
      (session.vault.store (run disk (.file session) commands).1 graph).2 = .ok ()) :
    let file := run disk (.file session) commands
    let flat := run disk (.tables tables) commands
    (∀ root path, ∃ found, flat.2.get root path = .ok found ∧
      ((∃ copied, file.2.get root path = .ok copied ∧ Option.Rel Node.Alike copied found) ↔
        ∀ node, found = some node → node.depth ≤ Node.copyDepth) ∧
      (∀ node, found = some node → Node.copyDepth < node.depth →
        file.2.get root path = .error (.mishap .nodeTooDeep)) ∧
      (commands.countP (·.creates) ≤ Node.copyDepth + 1 →
        ∀ node, found = some node → node.depth ≤ Node.copyDepth)) ∧
    file.2.roots? = flat.2.roots? ∧
    ((file.2.execute file.1 (.move root src dest)).result = .ok () ↔
      (flat.2.execute flat.1 (.move root src dest)).result = .ok ()) := by
  intro file flat
  have hstart : Alike session tables := by
    refine ⟨?_, hwritable⟩
    rw [hgraph, htables]
    exact .empty
  obtain ⟨session', tables', hfile, hflat, hvault, halike⟩ :=
    @alike_run disk disk session tables hstart commands hplain (hgraph ▸ hkept)
  have hfile' : file.2 = .file session' := hfile
  have hflat' : flat = (disk, .tables tables') := hflat
  rw [hfile', hflat']
  refine ⟨fun root path => ?_, halike.mirrors.roots?, ?_⟩
  · obtain ⟨found, hfound, hcopied, hdeep⟩ := halike.get root path
    refine ⟨found, hfound, hcopied, hdeep, fun hcount node hnode => ?_⟩
    apply Nat.le_of_not_lt
    intro hlt
    exact get_of_few hgraph hfile hcount root path (hdeep node hnode hlt)
  · have hmove := @Session.result_execute file.1 session' (.move root src dest)
      (hvault ▸ hstored _)
    have hrows := (TableStore.execute_writable halike.writable (.move root src dest)).2.1
    have hboth := @Mirrors.move_iff _ _ halike.mirrors root src dest hsrc hdest
    exact hmove.trans (hboth.trans hrows.symm)

/-- An item is put into a section that moves, and the section moves on. -/
theorem agree_moved :
    let commands : List Command :=
      [.createRoot "r", .createSection "r" ["a"], .createSection "r" ["b"],
       .createItem "r" ["a", "x"] "x" "" .notDone, .move "r" ["a"] ["b"],
       .toggleItem "r" ["b", "a", "x"]]
    let file := run .empty (.file ⟨⟨⟨.root, []⟩, 60, none⟩, .empty, .withCapacity 8⟩) commands
    let flat := run .empty (.tables ⟨.empty, none, none⟩) commands
    (∀ root path, ∃ a b, file.2.get root path = .ok a ∧ flat.2.get root path = .ok b ∧
      Option.Rel Node.Alike a b) ∧
    file.2.roots? = flat.2.roots? ∧
    ((file.2.execute file.1 (.move "r" ["b", "a"] [])).result = .ok () ↔
      (flat.2.execute flat.1 (.move "r" ["b", "a"] [])).result = .ok ()) := by
  intro commands file flat
  obtain ⟨hget, hroots, hmove⟩ := agree .empty
    ⟨⟨⟨.root, []⟩, 60, none⟩, .empty, .withCapacity 8⟩ ⟨.empty, none, none⟩ rfl rfl rfl commands
    (by decide) (by decide) "r" ["b", "a"] [] (by decide) (by decide) fun _ => rfl
  refine ⟨fun root path => ?_, hroots, hmove⟩
  obtain ⟨b, hflat, hcopied, -, hfew⟩ := hget root path
  obtain ⟨a, hfile, halike⟩ := hcopied.2 (hfew (by decide))
  exact ⟨a, b, hfile, hflat, halike⟩

/-- **What no copy is made of.**  Sections that stand below each other, more of them than there are
levels to be copied, are all created by a session, and in tables by the same commands.  The tables
have the node of their root, and the session has a mishap instead of a copy of it. -/
theorem get_burrowing {disk : Disk} {vault : Vault} (hfree : vault.isLocked = false)
    (hblank : vault.IsBlank disk) (capacity : Int) {n : Nat} (hn : Node.copyDepth < n) :
    ∃ opened first, Session.start disk vault capacity = (opened, .ok first) ∧
      first.graph = .empty ∧
      (∀ record ∈ (Session.together opened first (Session.burrowing n)).2.2,
        record.result = .ok ()) ∧
      (run opened (.file first) (Session.burrowing n)).2.get "r" [] =
        .error (.mishap .nodeTooDeep) ∧
      ∃ node, (run disk (.tables ⟨.empty, none, none⟩) (Session.burrowing n)).2.get "r" [] =
        .ok (some node) := by
  obtain ⟨opened, first, hstart, hdone, -⟩ := Session.load_burrowing hfree hblank capacity n
  obtain ⟨_, _, hstart', -⟩ := hblank.start hfree capacity
  have hfirst : first = ⟨vault.opened, .empty, .withCapacity capacity⟩ :=
    Except.ok.inj (Prod.ext_iff.1 (hstart.symm.trans hstart')).2
  have hempty : first.graph = .empty := by rw [hfirst]
  obtain ⟨-, hkept, hbottom⟩ := Session.records_burrowing n (.ok [])
  have hbegin : Alike first ⟨.empty, none, none⟩ := ⟨hempty ▸ .empty, rfl⟩
  obtain ⟨session, tables, hfile, hflat, -, halike⟩ :=
    @alike_run opened disk first ⟨.empty, none, none⟩ hbegin (Session.burrowing n)
      (Session.isPlain_burrowing n) (hempty ▸ hkept)
  obtain ⟨session', hfile', hgraph⟩ := graph_run opened first (Session.burrowing n)
  obtain rfl : session = session' := Store.file.inj (hfile.symm.trans hfile')
  rw [← hempty, ← hgraph] at hbottom
  have hlost : session.get "r" [] = .error (.mishap .nodeTooDeep) := by
    refine Session.get_of_deep hbottom.isSome ?_
    rwa [List.length_replicate]
  obtain ⟨found, hfound, hcopied, -⟩ := halike.get "r" []
  refine ⟨opened, first, hstart, hempty, hdone, ?_, ?_⟩
  · rw [hfile]
    exact hlost
  · rw [hflat]
    cases found with
    | some node => exact ⟨node, hfound⟩
    | none =>
      obtain ⟨copied, hget, -⟩ := hcopied.2 nofun
      cases hlost.symm.trans hget

/-- Two hundred sections, each in the one before it, are created in both stores, and their root is
found in one of them only. -/
theorem agree_lost :
    let vault : Vault := ⟨⟨.root, []⟩, 60, none⟩
    ∃ opened first, Session.start .empty vault 8 = (opened, .ok first) ∧ first.graph = .empty ∧
      (∀ command ∈ Session.burrowing 200, command.IsPlain) ∧
      Graph.empty.KeepsNodes (Session.burrowing 200) ∧
      (∀ record ∈ (Session.together opened first (Session.burrowing 200)).2.2,
        record.result = .ok ()) ∧
      ¬ ∃ a b, (run opened (.file first) (Session.burrowing 200)).2.get "r" [] = .ok a ∧
        (run .empty (.tables ⟨.empty, none, none⟩) (Session.burrowing 200)).2.get "r" [] = .ok b ∧
        Option.Rel Node.Alike a b := by
  intro vault
  have hblank : vault.IsBlank .empty := Vault.isBlank_root rfl
  have hdeep : Node.copyDepth < 200 := by
    unfold Node.copyDepth
    omega
  obtain ⟨opened, first, hstart, hempty, hdone, hlost, -⟩ := get_burrowing rfl hblank 8 hdeep
  refine ⟨opened, first, hstart, hempty, Session.isPlain_burrowing 200,
    (Session.records_burrowing 200 (.ok [])).2.1, hdone, ?_⟩
  rintro ⟨a, -, ha, -⟩
  cases hlost.symm.trans ha

end Store

end TaskTree
