import TaskTree.Tables.Query
import TaskTree.Proofs.Tables.Execute

/-!
# Reading sound tables

The rows of a root are put into a graph in the order of their paths, so each
comes after the row that it stands below.  In sound tables that row is there,
and nothing is met twice: reading never fails, and the graph that is read looks
like the tables (`IsSound.graphOf`).  The order in which the rows are kept does
not matter (`IsSound.get_perm`).
-/

namespace TaskTree

namespace Path

/-- Of two paths one precedes the other. -/
theorem precedes_total (p q : Path) : (precedes p q || precedes q p) = true := by
  induction p generalizing q with
  | nil => rfl
  | cons a p ih =>
    cases q with
    | nil => rfl
    | cons b q =>
      by_cases h : a = b
      · subst h
        simpa [precedes] using ih q
      · have hlt : a < b ∨ b < a := by
          rcases String.le_total a b with hab | hba
          · exact .inl (String.not_le.1 fun hba => h (String.le_antisymm hab hba))
          · exact .inr (String.not_le.1 fun hab => h (String.le_antisymm hab hba))
        have h' : b ≠ a := Ne.symm h
        simpa [precedes, h, h'] using hlt

/-- Paths that precede each other are the same. -/
theorem precedes_antisymm {p q : Path} (h : precedes p q = true) (h' : precedes q p = true) :
    p = q := by
  induction p generalizing q with
  | nil =>
    cases q with
    | nil => rfl
    | cons b q => cases h'
  | cons a p ih =>
    cases q with
    | nil => cases h
    | cons b q =>
      by_cases hab : a = b
      · subst hab
        rw [precedes, if_pos rfl] at h h'
        rw [ih h h']
      · rw [precedes, if_neg hab, decide_eq_true_eq] at h
        rw [precedes, if_neg (Ne.symm hab), decide_eq_true_eq] at h'
        exact absurd (String.lt_trans h h') (String.lt_irrefl a)

/-- Precedence passes along. -/
theorem precedes_trans {p q r : Path} (h : precedes p q = true) (h' : precedes q r = true) :
    precedes p r = true := by
  induction p generalizing q r with
  | nil => rfl
  | cons a p ih =>
    cases q with
    | nil => cases h
    | cons b q =>
      cases r with
      | nil => cases h'
      | cons c r =>
        rw [precedes] at h h' ⊢
        by_cases hab : a = b
        · subst hab
          rw [if_pos rfl] at h
          by_cases hac : a = c
          · rw [if_pos hac] at h' ⊢
            exact ih h h'
          · rw [if_neg hac] at h' ⊢
            exact h'
        · rw [if_neg hab, decide_eq_true_eq] at h
          by_cases hbc : b = c
          · subst hbc
            rw [if_neg hab, decide_eq_true_eq]
            exact h
          · rw [if_neg hbc, decide_eq_true_eq] at h'
            have hac : a < c := String.lt_trans h h'
            have hne : a ≠ c := fun heq => String.lt_irrefl a (heq ▸ hac)
            rw [if_neg hne, decide_eq_true_eq]
            exact hac

/-- A path does not precede those that it goes on after. -/
theorem not_precedes_append (p : Path) (segment : String) (rest : Path) :
    precedes (p ++ segment :: rest) p = false := by
  induction p with
  | nil => rfl
  | cons a p ih => rw [List.cons_append, precedes, if_pos rfl, ih]

end Path

namespace Row

/-- A row with its content, nothing being read where that cannot be done. -/
def readD (row : Row) : ReadRow :=
  row.read.toOption.getD ⟨row, none⟩

/-- A kept row is read without a fault. -/
theorem IsKept.read_eq {row : Row} (h : row.IsKept) : row.read = .ok row.readD := by
  obtain ⟨read, hread, -⟩ := h.read
  rw [readD, hread]
  rfl

/-- Reading a kept row keeps the row itself. -/
theorem IsKept.row_readD {row : Row} (h : row.IsKept) : row.readD.row = row := by
  obtain ⟨read, hread, hrow⟩ := h.read
  rw [readD, hread]
  exact hrow

/-- The node of a row that keeps what it should. -/
theorem IsKept.node_readD {row : Row} (h : row.IsKept) :
    ∃ node, row.readD.node = .ok node ∧ row.node? = some node := by
  have hnode : row.node? = row.readD.node.toOption := by
    rw [Row.node?, h.read_eq]
  rw [hnode]
  rcases h.node? with ⟨-, hsome⟩ | ⟨-, item, hsome⟩ <;>
  · rw [hnode] at hsome
    cases hresult : row.readD.node with
    | error failure => rw [hresult] at hsome; cases hsome
    | ok node => exact ⟨node, rfl, rfl⟩

end Row

namespace Tables

/-- Kept rows are all read, in their order. -/
theorem readAll_eq {rows : List Row} (h : ∀ row ∈ rows, row.IsKept) :
    readAll rows = .ok (rows.map Row.readD) := by
  induction rows with
  | nil => rfl
  | cons row rest ih =>
    rw [readAll, (h row (List.mem_cons_self ..)).read_eq]
    simp only [ih fun r hr => h r (List.mem_cons_of_mem _ hr), List.map_cons]

/-- The comparison that sorts rows. -/
private def standsBefore (a b : ReadRow) : Bool :=
  a.row.segments.precedes b.row.segments

/-- The order of the rows in a listing passes along. -/
private theorem standsBefore_trans (a b c : ReadRow) (h : standsBefore a b = true)
    (h' : standsBefore b c = true) : standsBefore a c = true :=
  Path.precedes_trans h h'

/-- Of two rows one stands before the other. -/
private theorem standsBefore_total (a b : ReadRow) :
    (standsBefore a b || standsBefore b a) = true :=
  Path.precedes_total ..

/-- The rows of a root in the order of their paths. -/
def listed (tables : Tables) (root : String) : List ReadRow :=
  ((tables.rowsOf root).map Row.readD).mergeSort fun a b => a.row.segments.precedes b.row.segments

variable {tables : Tables} {root : String}

/-- The rows of a root are those that stand at their own path below it. -/
theorem mem_rowsOf_iff {row : Row} :
    row ∈ tables.rowsOf root ↔ tables.RowAt root row.segments row := by
  rw [rowsOf, List.mem_filter, Bool.and_eq_true, beq_iff_eq]
  exact ⟨fun ⟨hmem, hactive, hroot⟩ => ⟨hmem, hactive, hroot, rfl⟩,
    fun h => ⟨h.mem, h.active, h.root⟩⟩

/-- Sound tables list their rows without a fault. -/
theorem IsSound.list_eq (h : tables.IsSound) (root : String) :
    tables.list root = .ok (tables.listed root) := by
  rw [list, readAll_eq fun row hrow => h.kept (mem_rowsOf_iff.1 hrow)]
  rfl

/-- Listed is what stands at its own path below the root. -/
theorem mem_listed_iff {read : ReadRow} :
    read ∈ tables.listed root ↔
      ∃ row, tables.RowAt root row.segments row ∧ read = row.readD := by
  rw [listed, List.mem_mergeSort, List.mem_map]
  constructor
  · intro hthere
    obtain ⟨row, hrow, rfl⟩ := hthere
    exact ⟨row, mem_rowsOf_iff.1 hrow, rfl⟩
  · intro hthere
    obtain ⟨row, hrow, rfl⟩ := hthere
    exact ⟨row, mem_rowsOf_iff.2 hrow, rfl⟩

/-- A listing is sorted by the paths of its rows. -/
theorem listed_pairwise (tables : Tables) (root : String) :
    (tables.listed root).Pairwise fun a b => a.row.segments.precedes b.row.segments = true :=
  List.pairwise_mergeSort standsBefore_trans standsBefore_total _

/-- The graph shows what the tables show of a root and of the rows that had their turn. -/
def Shows (tables : Tables) (root : String) (done : List ReadRow) (graph : Graph) : Prop :=
  ∀ q, graph.view root q =
    if q = [] ∨ ∃ read ∈ done, read.row.segments = q then tables.view root q else none

/-- A row of sound tables reads back the path it stands at. -/
theorem IsSound.segments_readD (h : tables.IsSound) {path : Path} {row : Row}
    (hrow : tables.RowAt root path row) : row.readD.row.segments = path := by
  rw [(h.kept hrow).row_readD, hrow.path]

/-- A row that stands below the root is listed. -/
theorem RowAt.readD_mem_listed {path : Path} {row : Row} (hrow : tables.RowAt root path row) :
    row.readD ∈ tables.listed root :=
  mem_listed_iff.2 ⟨row, hrow.path.symm ▸ hrow, rfl⟩

section Turn

variable {done more : List ReadRow} {path : Path} {row : Row}

/-- The row above a row has its turn before it. -/
theorem IsSound.above_mem_done (h : tables.IsSound) {name : String}
    (hlisted : done ++ row.readD :: more = tables.listed root)
    (hrow : tables.RowAt root (path ++ [name]) row) (hne : path ≠ []) :
    ∃ read ∈ done, read.row.segments = path := by
  have horder := tables.listed_pairwise root
  rw [← hlisted, List.pairwise_append, List.pairwise_cons] at horder
  obtain ⟨-, ⟨hmore, -⟩, -⟩ := horder
  obtain ⟨parent, hparent, -⟩ := h.closed hrow hne
  have hsegments := h.segments_readD hparent
  have hthere := hparent.readD_mem_listed
  rw [← hlisted, List.mem_append, List.mem_cons] at hthere
  rcases hthere with hdone | heq | hlater
  · exact ⟨_, hdone, hsegments⟩
  · rw [heq, h.segments_readD hrow] at hsegments
    simp at hsegments
  · have hbefore := hmore _ hlater
    rw [h.segments_readD hrow, hsegments, Path.not_precedes_append] at hbefore
    cases hbefore

/-- No row that stands below a row has its turn before it. -/
theorem IsSound.below_not_mem_done (h : tables.IsSound)
    (hlisted : done ++ row.readD :: more = tables.listed root)
    (hrow : tables.RowAt root path row) {read : ReadRow} (hread : read ∈ done)
    (segment : String) (rest : Path) : read.row.segments ≠ path ++ segment :: rest := by
  intro hat
  have horder := tables.listed_pairwise root
  rw [← hlisted, List.pairwise_append] at horder
  have hbefore := horder.2.2 read hread row.readD (List.mem_cons_self ..)
  rw [hat, h.segments_readD hrow, Path.not_precedes_append] at hbefore
  cases hbefore

/-- A row whose turn it is can be put into the graph, which then shows it, too. -/
theorem IsSound.shows_step (h : tables.IsSound) {graph : Graph}
    (hlisted : done ++ row.readD :: more = tables.listed root)
    (hrow : tables.RowAt root path row) (hshows : tables.Shows root done graph) :
    ∃ node graph', row.readD.node = .ok node ∧ graph.create root path node = .ok graph' ∧
      tables.Shows root (done ++ [row.readD]) graph' := by
  have hkept := h.kept hrow
  have hsegments := h.segments_readD hrow
  obtain ⟨node, hnode, hshown⟩ := hkept.node_readD
  obtain ⟨above, name, rfl⟩ := Path.exists_above hrow.ne_nil
  have hunder : (graph.view root).IsBranchAt above := by
    obtain ⟨kind, hkind⟩ := h.branch_parent (h.isSome_of_rowAt hrow)
    refine ⟨kind, ?_⟩
    rw [hshows, if_pos, hkind]
    by_cases hne : above = []
    · exact .inl hne
    · exact .inr (h.above_mem_done hlisted hrow hne)
  obtain ⟨graph', hok, hview⟩ :=
    Graph.create_of_branch (fun segment hs => (h.legal hrow segment hs).1) hunder node
  refine ⟨node, graph', hnode, hok, ?_⟩
  intro q
  rw [hview, Graph.put_same]
  by_cases hbegins : above ++ [name] <+: q
  · obtain ⟨below, rfl⟩ := hbegins
    rw [Node.graft_append_path]
    cases below with
    | nil =>
      have hface : tables.view root (above ++ [name]) = some node.face :=
        h.view_eq_some_iff.2 (.inr ⟨row, hrow, by rw [hshown]; rfl⟩)
      rw [List.append_nil, Node.view_nil, hface, if_pos]
      exact .inr ⟨row.readD, by simp, hsegments⟩
    | cons segment below =>
      rw [hkept.view_cons hshown, if_neg]
      intro hcases
      rcases hcases with hnil | ⟨other, hother, hat⟩
      · simp at hnil
      · rcases List.mem_append.1 hother with hother | hother
        · exact h.below_not_mem_done hlisted hrow hother segment below hat
        · rw [List.mem_singleton.1 hother, hsegments] at hat
          simp at hat
  · have hq : ¬ row.readD.row.segments = q := fun heq =>
      hbegins (heq ▸ hsegments ▸ List.prefix_refl _)
    rw [Node.graft_elsewhere hbegins, hshows]
    simp [or_and_right, exists_or, hq]

/-- A graph that shows all rows looks like the tables. -/
theorem IsSound.view_of_shows (h : tables.IsSound) {graph : Graph}
    (hshows : tables.Shows root (tables.listed root) graph) :
    graph.view root = tables.view root := by
  funext q
  rw [hshows]
  split
  · rfl
  · next hnot =>
    symm
    apply h.view_eq_none fun hq => hnot (.inl hq)
    intro row hrow
    exact hnot (.inr ⟨row.readD, hrow.readD_mem_listed, h.segments_readD hrow⟩)

end Turn

/-- The rows that are left are put below rows that are already there, and the graph in the
end shows what the tables show. -/
theorem IsSound.addRows (h : tables.IsSound) {done rest : List ReadRow} {graph : Graph}
    (hlisted : done ++ rest = tables.listed root) (hshows : tables.Shows root done graph) :
    ∃ graph', addRows root rest graph = .ok graph' ∧ graph'.view root = tables.view root := by
  induction rest generalizing done graph with
  | nil =>
    rw [List.append_nil] at hlisted
    exact ⟨graph, rfl, h.view_of_shows (hlisted ▸ hshows)⟩
  | cons read more ih =>
    have hmem : read ∈ tables.listed root := by
      rw [← hlisted]
      exact List.mem_append_right _ (List.mem_cons_self ..)
    obtain ⟨row, hrow, rfl⟩ := mem_listed_iff.1 hmem
    obtain ⟨node, graph', hnode, hok, hshows'⟩ := h.shows_step hlisted hrow hshows
    rw [Tables.addRows, hnode]
    simp only [h.segments_readD hrow, hok]
    apply ih _ hshows'
    rw [← hlisted, List.append_assoc]
    rfl

/-- **Sound tables can be read.**  The rows of a known root make a graph that looks like the
tables. -/
theorem IsSound.graphOf (h : tables.IsSound) (hroot : root ∈ tables.roots) :
    ∃ graph, tables.graphOf root = .ok graph ∧ graph.view root = tables.view root := by
  have hne : root ≠ "" := fun heq => h.rootsNamed (heq ▸ hroot)
  have hstart : Graph.empty.createRoot root = .ok [(root, .emptyUser)] := by
    simp [Graph.createRoot, hne, Graph.empty, Named.has, Named.insert]
  have hshows : tables.Shows root [] [(root, .emptyUser)] := by
    intro q
    rw [@Graph.view_of_find? [(root, .emptyUser)] root .emptyUser (by simp [Named.find?])]
    cases q with
    | nil => simp [h.view_root.2 hroot, Node.emptyUser, Node.face]
    | cons segment rest => simp [Node.emptyUser, Node.view_branch_cons, Named.find?]
  obtain ⟨graph, hok, hview⟩ := h.addRows (List.nil_append _) hshows
  exact ⟨graph, by simp only [Tables.graphOf, h.list_eq, hstart, hok], hview⟩

/-- A node that is read looks like what is seen of the tables at and below its path. -/
theorem IsSound.get (h : tables.IsSound) (root : String) (path : Path) :
    ∃ node?, tables.get root path = .ok node? ∧
      ∀ q, node?.bind (·.view q) = tables.view root (path.clean ++ q) := by
  unfold Tables.get
  by_cases hroot : root ∈ tables.roots
  · obtain ⟨graph, hok, hview⟩ := h.graphOf hroot
    refine ⟨graph.get? root path.clean, by simp [hasRoot, hroot, hok, Except.map], fun q => ?_⟩
    rw [← hview]
    cases hget : graph.get? root path.clean with
    | none => exact (Graph.view_none_append (Graph.view_eq_none_iff.2 hget) q).symm
    | some node => exact (Graph.view_of_get? hget q).symm
  · exact ⟨none, by simp [hasRoot, hroot], fun q => (h.view_of_not_mem hroot _).symm⟩

/-! The order in which rows are kept. -/

/-- Which row stands where does not depend on the order of the rows. -/
theorem rowAt_perm {rows : List Row} (hperm : tables.rows.Perm rows) {r : String} {p : Path}
    {row : Row} : RowAt { tables with rows } r p row ↔ tables.RowAt r p row :=
  ⟨fun h => ⟨hperm.mem_iff.2 h.mem, h.active, h.root, h.path⟩,
    fun h => ⟨hperm.mem_iff.1 h.mem, h.active, h.root, h.path⟩⟩

/-- Soundness does not depend on the order of the rows. -/
theorem IsSound.perm (h : tables.IsSound) {rows : List Row} (hperm : tables.rows.Perm rows) :
    IsSound { tables with rows } :=
  h.fewer h.rootsDistinct h.rootsNamed (fun _ hroot => hroot)
    ((hperm.map Row.id).nodup_iff.1 h.numbered)
    (fun row hrow => h.fresh row (hperm.mem_iff.2 hrow))
    (fun hrow => (rowAt_perm hperm).1 hrow) fun _ hparent => (rowAt_perm hperm).2 hparent

/-- The rows of a root are listed in one order, in whatever order they are kept. -/
theorem IsSound.listed_perm (h : tables.IsSound) {rows : List Row}
    (hperm : tables.rows.Perm rows) (root : String) :
    listed { tables with rows } root = tables.listed root := by
  have hreads : (listed { tables with rows } root).Perm (tables.listed root) :=
    (List.mergeSort_perm ..).trans
      ((((hperm.filter _).map _).symm).trans (List.mergeSort_perm ..).symm)
  refine hreads.eq_of_pairwise ?_ (listed_pairwise _ root) (listed_pairwise _ root)
  intro a b ha hb hab hba
  obtain ⟨row, hrow, rfl⟩ := mem_listed_iff.1 (hreads.mem_iff.1 ha)
  obtain ⟨row', hrow', rfl⟩ := mem_listed_iff.1 hb
  have hsegments := Path.precedes_antisymm hab hba
  rw [(h.kept hrow).row_readD, (h.kept hrow').row_readD] at hsegments
  rw [h.unique hrow (hsegments.symm ▸ hrow')]

/-- **The order of rows does not matter.**  A sound table is read as the same node, in whatever
order its rows are kept. -/
theorem IsSound.get_perm (h : tables.IsSound) {rows : List Row}
    (hperm : tables.rows.Perm rows) (root : String) (path : Path) :
    Tables.get { tables with rows } root path = tables.get root path := by
  have hgraph : Tables.graphOf { tables with rows } root = tables.graphOf root := by
    unfold Tables.graphOf
    rw [(h.perm hperm).list_eq, h.list_eq, h.listed_perm hperm]
  unfold Tables.get
  rw [hgraph]
  rfl

end Tables

end TaskTree
