import TaskTree.Tables.Execute
import TaskTree.Proofs.Graph.Execute
import TaskTree.Proofs.Json.Layout
import TaskTree.Proofs.Path

/-!
# Sound tables

The active rows of a root stand at paths.  Tables are sound if no two of them
stand at one path, their names are legal, each of them lies below a section or
the root, and each row of an item keeps a readable text.

What is seen of sound tables is a view like that of a graph, and only branches
have something below them in it (`IsSound.branch_above`).  Looking up a path
finds what is seen there.  A change below one root is told by the view that it
leaves of that root (`Becomes`).
-/

namespace TaskTree

namespace Row

/-- The row keeps what rows of its kind keep: the text of an item, or nothing. -/
def IsKept (row : Row) : Prop :=
  (row.kind = .group ∧ row.content = none) ∨
    (row.kind = .item ∧ ∃ item, row.content = some (ItemFields.ofItem item).text)

/-- The node of a row without the nodes below it, if its content can be read. -/
def node? (row : Row) : Option Node :=
  match row.read with
  | .ok read => read.node.toOption
  | .error _ => none

end Row

namespace ItemFields

/-- The text of an item is read as the object that it was made of. -/
theorem read_text (item : Item) : Json.read Json.textDepth (ofItem item).text.toList =
    .ok (.object [("title", .string item.title), ("description", .string item.description),
      ("state", .string item.state.word)]) := by
  have hdistinct : (["title", "description", "state"] : List String).Nodup := by decide
  refine Json.read_line_flat hdistinct ?_
  intro member hm
  simp only [List.mem_cons, List.not_mem_nil, or_false] at hm
  rcases hm with rfl | rfl | rfl <;> exact ⟨_, rfl⟩

/-- The text of an item is not empty. -/
theorem text_ne_empty (item : Item) : (ofItem item).text ≠ "" := by
  intro h
  have hread := read_text item
  rw [h] at hread
  cases hread

end ItemFields

namespace Row

/-- The row of an item is read as the row with the object of the item. -/
theorem read_item {row : Row} {item : Item}
    (h : row.content = some (ItemFields.ofItem item).text) :
    ∃ read, row.read = .ok read ∧ read.row = row ∧ read.fields = .ok (ItemFields.ofItem item) := by
  refine ⟨⟨row, some (.object [("title", .string item.title),
    ("description", .string item.description), ("state", .string item.state.word)])⟩, ?_, rfl, ?_⟩
  · unfold Row.read
    rw [h]
    simp only [if_neg (ItemFields.text_ne_empty item), ItemFields.read_text]
  · have hstate : Node.stateOfJson? (.string item.state.word) = some item.state :=
      TaskState.ofWord?_word item.state
    simp [ReadRow.fields, ReadRow.members, Json.isVoid, Named.find?, hstate, ItemFields.ofItem]

/-- A row that keeps what it should is read. -/
theorem IsKept.read {row : Row} (h : row.IsKept) :
    ∃ read, row.read = .ok read ∧ read.row = row := by
  rcases h with ⟨-, hcontent⟩ | ⟨-, item, hcontent⟩
  · exact ⟨⟨row, none⟩, by unfold Row.read; rw [hcontent], rfl⟩
  · obtain ⟨read, hread, hrow, -⟩ := read_item hcontent
    exact ⟨read, hread, hrow⟩

/-- The row of a section without content is an empty section. -/
theorem node?_group {row : Row} (hkind : row.kind = .group) (hcontent : row.content = none) :
    row.node? = some .emptySection := by
  have hread : row.read = .ok ⟨row, none⟩ := by
    unfold Row.read
    rw [hcontent]
  rw [node?, hread]
  simp only [ReadRow.node, hkind]
  rfl

/-- The row with the text of an item is that item. -/
theorem node?_item {row : Row} {item : Item} (hkind : row.kind = .item)
    (hcontent : row.content = some (ItemFields.ofItem item).text) :
    row.node? = some (.leaf item) := by
  obtain ⟨read, hread, hrow, hfields⟩ := read_item hcontent
  rw [node?, hread]
  simp only [ReadRow.node, hrow, hkind, hfields, ItemFields.item?_ofItem]
  rfl

/-- A row that keeps what it should has a node with nothing below it, of the kind of the row. -/
theorem IsKept.node? {row : Row} (h : row.IsKept) :
    (row.kind = .group ∧ row.node? = some .emptySection) ∨
      (row.kind = .item ∧ ∃ item, row.node? = some (.leaf item)) := by
  rcases h with ⟨hkind, hcontent⟩ | ⟨hkind, item, hcontent⟩
  · exact .inl ⟨hkind, node?_group hkind hcontent⟩
  · exact .inr ⟨hkind, item, node?_item hkind hcontent⟩

end Row

namespace Tables

/-- An active row stands at a path below a root. -/
structure RowAt (tables : Tables) (root : String) (path : Path) (row : Row) : Prop where
  mem : row ∈ tables.rows
  active : row.active = true
  root : row.root = root
  path : row.segments = path

/-- What tables are that only plain commands have changed. -/
structure IsSound (tables : Tables) : Prop where
  rootsDistinct : tables.roots.Nodup
  rootsNamed : "" ∉ tables.roots
  numbered : (tables.rows.map Row.id).Nodup
  fresh : ∀ row ∈ tables.rows, row.id < tables.nextId
  rooted : ∀ {root path row}, tables.RowAt root path row → root ∈ tables.roots
  unique : ∀ {root path a b}, tables.RowAt root path a → tables.RowAt root path b → a = b
  legal : ∀ {root path row}, tables.RowAt root path row →
    ∀ segment ∈ path, Path.IsLegal segment ∧ '\x00' ∉ segment.toList
  kept : ∀ {root path row}, tables.RowAt root path row → row.IsKept
  closed : ∀ {root above name row}, tables.RowAt root (above ++ [name]) row → above ≠ [] →
    ∃ parent, tables.RowAt root above parent ∧ parent.kind = .group

/-- Tables without roots and rows are sound. -/
theorem isSound_empty : IsSound empty := by
  have hnone : ∀ {root path row}, ¬ empty.RowAt root path row := fun h => by cases h.mem
  exact ⟨List.nodup_nil, List.not_mem_nil, List.nodup_nil, fun row h => (nomatch h),
    fun h => absurd h hnone, fun h => absurd h hnone, fun h => absurd h hnone,
    fun h => absurd h hnone, fun h => absurd h hnone⟩

/-- What is seen of tables: the roots are users, and each row shows its node at its path. -/
def view (tables : Tables) : Graph.View := fun root path =>
  match path with
  | [] => if tables.hasRoot root then some (.branch .user) else none
  | _ :: _ =>
    (tables.rows.find? fun row => row.active && row.root == root && row.segments == path).bind
      fun row => row.node?.map Node.face

theorem view_nil (tables : Tables) (root : String) :
    tables.view root [] = if tables.hasRoot root then some (.branch .user) else none := rfl

theorem RowAt.ne_nil {tables : Tables} {root : String} {path : Path} {row : Row}
    (h : tables.RowAt root path row) : path ≠ [] :=
  h.path ▸ Path.splitText_ne_nil row.path

/-- The text of a row is that of the path where it stands. -/
theorem RowAt.text {tables : Tables} {root : String} {path : Path} {row : Row}
    (h : tables.RowAt root path row) : row.path = Path.format path := by
  rw [← h.path, Row.segments, Path.format_splitText]

/-- Something is seen of tables where a root is known or a row with a node stands. -/
theorem IsSound.view_eq_some_iff {tables : Tables} (h : tables.IsSound) {root : String}
    {path : Path} {face : Node.Face} :
    tables.view root path = some face ↔
      (path = [] ∧ root ∈ tables.roots ∧ face = .branch .user) ∨
        ∃ row, tables.RowAt root path row ∧ row.node?.map Node.face = some face := by
  cases path with
  | nil =>
    have hnone : ∀ row, ¬ tables.RowAt root [] row := fun row hrow => hrow.ne_nil rfl
    rw [view_nil, hasRoot]
    by_cases hroot : root ∈ tables.roots
    · simp [hroot, hnone, eq_comm]
    · simp [hroot, hnone]
  | cons segment rest =>
    constructor
    · intro hview
      obtain ⟨row, hfound, hface⟩ := Option.bind_eq_some_iff.1 hview
      have hat := List.find?_some hfound
      simp only [Bool.and_eq_true, beq_iff_eq] at hat
      exact .inr ⟨row, ⟨List.mem_of_find?_eq_some hfound, hat.1.1, hat.1.2, hat.2⟩, hface⟩
    · intro hcases
      rcases hcases with ⟨hnil, -⟩ | ⟨row, hrow, hface⟩
      · cases hnil
      · have hsome : (tables.rows.find? fun row =>
            row.active && row.root == root && row.segments == segment :: rest).isSome := by
          rw [List.find?_isSome]
          exact ⟨row, hrow.mem, by simp [hrow.active, hrow.root, hrow.path]⟩
        obtain ⟨found, hfound⟩ := Option.isSome_iff_exists.1 hsome
        have hat := List.find?_some hfound
        simp only [Bool.and_eq_true, beq_iff_eq] at hat
        have hsame : found = row :=
          h.unique ⟨List.mem_of_find?_eq_some hfound, hat.1.1, hat.1.2, hat.2⟩ hrow
        exact Option.bind_eq_some_iff.2 ⟨row, hsame ▸ hfound, hface⟩

/-- A root is seen as a user if it is known. -/
theorem IsSound.view_root {tables : Tables} (h : tables.IsSound) {root : String} :
    tables.view root [] = some (.branch .user) ↔ root ∈ tables.roots := by
  rw [h.view_eq_some_iff]
  constructor
  · intro hcases
    rcases hcases with ⟨-, hroot, -⟩ | ⟨row, hrow, -⟩
    · exact hroot
    · exact absurd rfl hrow.ne_nil
  · exact fun hroot => .inl ⟨rfl, hroot, rfl⟩

/-- A row is seen at its path as what its kind says. -/
theorem IsSound.view_of_rowAt {tables : Tables} (h : tables.IsSound) {root : String}
    {path : Path} {row : Row} (hrow : tables.RowAt root path row) :
    (row.kind = .group ∧ tables.view root path = some (.branch .group)) ∨
      (row.kind = .item ∧ ∃ item, row.node? = some (.leaf item) ∧
        tables.view root path = some (.leaf item)) := by
  rcases (h.kept hrow).node? with ⟨hkind, hnode⟩ | ⟨hkind, item, hnode⟩
  · refine .inl ⟨hkind, h.view_eq_some_iff.2 (.inr ⟨row, hrow, ?_⟩)⟩
    rw [hnode]
    rfl
  · refine .inr ⟨hkind, item, hnode, h.view_eq_some_iff.2 (.inr ⟨row, hrow, ?_⟩)⟩
    rw [hnode]
    rfl

/-- The row of a section is seen as a section. -/
theorem IsSound.view_group {tables : Tables} (h : tables.IsSound) {root : String}
    {path : Path} {row : Row} (hrow : tables.RowAt root path row) (hkind : row.kind = .group) :
    tables.view root path = some (.branch .group) := by
  rcases h.view_of_rowAt hrow with ⟨-, hsome⟩ | ⟨hitem, -⟩
  · exact hsome
  · rw [hkind] at hitem
    cases hitem

/-- The row of an item is seen as the item. -/
theorem IsSound.view_item {tables : Tables} (h : tables.IsSound) {root : String}
    {path : Path} {row : Row} {item : Item} (hrow : tables.RowAt root path row)
    (hkind : row.kind = .item) (hcontent : row.content = some (ItemFields.ofItem item).text) :
    tables.view root path = some (.leaf item) := by
  refine h.view_eq_some_iff.2 (.inr ⟨row, hrow, ?_⟩)
  rw [Row.node?_item hkind hcontent]
  rfl

/-- Where something is seen below a root there is a row. -/
theorem IsSound.rowAt_of_view {tables : Tables} (h : tables.IsSound) {root : String}
    {path : Path} (hne : path ≠ []) (hview : (tables.view root path).isSome) :
    ∃ row, tables.RowAt root path row := by
  obtain ⟨face, hface⟩ := Option.isSome_iff_exists.1 hview
  rcases h.view_eq_some_iff.1 hface with ⟨hnil, -⟩ | ⟨row, hrow, -⟩
  · exact absurd hnil hne
  · exact ⟨row, hrow⟩

/-- Nothing is seen below a path but where a row stands. -/
theorem IsSound.view_eq_none {tables : Tables} (h : tables.IsSound) {root : String}
    {path : Path} (hne : path ≠ []) (hnone : ∀ row, ¬ tables.RowAt root path row) :
    tables.view root path = none := by
  apply Option.not_isSome_iff_eq_none.1
  intro hview
  obtain ⟨row, hrow⟩ := h.rowAt_of_view hne hview
  exact hnone row hrow

/-- Where nothing is seen there is no row. -/
theorem IsSound.not_rowAt {tables : Tables} (h : tables.IsSound) {root : String}
    {path : Path} (hview : tables.view root path = none) (row : Row) :
    ¬ tables.RowAt root path row := by
  intro hrow
  rcases h.view_of_rowAt hrow with ⟨-, hsome⟩ | ⟨-, item, -, hsome⟩ <;>
    (rw [hview] at hsome; cases hsome)

/-- Where a row is something is seen. -/
theorem IsSound.isSome_of_rowAt {tables : Tables} (h : tables.IsSound) {root : String}
    {path : Path} {row : Row} (hrow : tables.RowAt root path row) :
    (tables.view root path).isSome := by
  rcases h.view_of_rowAt hrow with ⟨-, hseen⟩ | ⟨-, item, -, hseen⟩ <;> rw [hseen] <;> rfl

/-- Something is seen of known roots only. -/
theorem IsSound.root_of_view {tables : Tables} (h : tables.IsSound) {root : String}
    {path : Path} (hview : (tables.view root path).isSome) : root ∈ tables.roots := by
  obtain ⟨face, hface⟩ := Option.isSome_iff_exists.1 hview
  rcases h.view_eq_some_iff.1 hface with ⟨-, hroot, -⟩ | ⟨row, hrow, -⟩
  · exact hroot
  · exact h.rooted hrow

/-- Nothing is seen below an unknown root. -/
theorem IsSound.view_of_not_mem {tables : Tables} (h : tables.IsSound) {root : String}
    (hroot : root ∉ tables.roots) (path : Path) : tables.view root path = none := by
  apply Option.not_isSome_iff_eq_none.1
  intro hview
  exact hroot (h.root_of_view hview)

/-- A branch other than the root is the row of a section. -/
theorem IsSound.group_of_branch {tables : Tables} (h : tables.IsSound) {root : String}
    {path : Path} (hne : path ≠ []) (hbranch : (tables.view root).IsBranchAt path) :
    ∃ row, tables.RowAt root path row ∧ row.kind = .group := by
  obtain ⟨row, hrow⟩ := h.rowAt_of_view hne hbranch.isSome
  refine ⟨row, hrow, ?_⟩
  rcases h.view_of_rowAt hrow with ⟨hgroup, -⟩ | ⟨-, item, -, hitem⟩
  · exact hgroup
  · obtain ⟨kind, hkind⟩ := hbranch
    rw [hkind] at hitem
    cases hitem

/-- The row of an item is no branch. -/
theorem IsSound.not_branch_of_item {tables : Tables} (h : tables.IsSound) {root : String}
    {path : Path} {row : Row} (hrow : tables.RowAt root path row) (hitem : row.kind = .item) :
    ¬ (tables.view root).IsBranchAt path := by
  intro hbranch
  obtain ⟨other, hother, hgroup⟩ := h.group_of_branch hrow.ne_nil hbranch
  rw [h.unique hother hrow, hitem] at hgroup
  cases hgroup

/-- The place above a row is a branch. -/
theorem IsSound.branch_parent {tables : Tables} (h : tables.IsSound) {root : String}
    {above : Path} {name : String} (hview : (tables.view root (above ++ [name])).isSome) :
    (tables.view root).IsBranchAt above := by
  obtain ⟨row, hrow⟩ := h.rowAt_of_view (by simp) hview
  by_cases hne : above = []
  · subst hne
    exact ⟨.user, h.view_root.2 (h.rooted hrow)⟩
  · obtain ⟨parent, hparent, hkind⟩ := h.closed hrow hne
    rcases h.view_of_rowAt hparent with ⟨-, hsome⟩ | ⟨hitem, -⟩
    · exact ⟨.group, hsome⟩
    · rw [hkind] at hitem
      cases hitem

/-- Only branches have something below them. -/
theorem IsSound.branch_above {tables : Tables} (h : tables.IsSound) {root : String}
    {p : Path} {segment : String} {q : Path}
    (hview : (tables.view root (p ++ segment :: q)).isSome) :
    (tables.view root).IsBranchAt p := by
  induction q generalizing p segment with
  | nil => exact h.branch_parent hview
  | cons next rest ih =>
    have hbelow : (tables.view root (p ++ [segment] ++ next :: rest)).isSome := by
      simpa using hview
    exact h.branch_parent (ih hbelow).isSome

/-- Below a place where nothing is seen nothing is seen. -/
theorem IsSound.view_none_append {tables : Tables} (h : tables.IsSound) {root : String}
    {p : Path} (hview : tables.view root p = none) (q : Path) :
    tables.view root (p ++ q) = none := by
  cases q with
  | nil => rw [List.append_nil, hview]
  | cons segment rest =>
    apply Option.not_isSome_iff_eq_none.1
    intro hsome
    obtain ⟨kind, hkind⟩ := h.branch_above hsome
    rw [hview] at hkind
    cases hkind

/-- Nothing is seen below an item. -/
theorem IsSound.item_below {tables : Tables} (h : tables.IsSound) {root : String} {path : Path}
    {row : Row} (hrow : tables.RowAt root path row) (hitem : row.kind = .item) {q : Path}
    (hview : (tables.view root (path ++ q)).isSome) : q = [] := by
  cases q with
  | nil => rfl
  | cons segment rest => exact absurd (h.branch_above hview) (h.not_branch_of_item hrow hitem)

/-- An item is not on the way to a branch. -/
theorem IsSound.item_not_above {tables : Tables} (h : tables.IsSound) {root : String}
    {path above : Path} {row : Row} (hrow : tables.RowAt root path row) (hitem : row.kind = .item)
    (hbranch : (tables.view root).IsBranchAt above) : ¬ path <+: above := by
  intro hin
  obtain ⟨more, rfl⟩ := hin
  have hmore : more = [] := h.item_below hrow hitem hbranch.isSome
  rw [hmore, List.append_nil] at hbranch
  exact h.not_branch_of_item hrow hitem hbranch

/-! Looking at a path. -/

/-- Sound tables find the row at a path by the text of the path. -/
theorem IsSound.find?_of_rowAt {tables : Tables} (h : tables.IsSound) {root : String}
    {path : Path} {row : Row} (hrow : tables.RowAt root path row) :
    tables.find? root (Path.format path) = some row := by
  have hsome : (tables.find? root (Path.format path)).isSome := by
    rw [find?, List.find?_isSome]
    exact ⟨row, hrow.mem, by simp [standsAt, hrow.active, hrow.root, hrow.text]⟩
  obtain ⟨found, hfound⟩ := Option.isSome_iff_exists.1 hsome
  have hat := List.find?_some hfound
  simp only [standsAt, Bool.and_eq_true, beq_iff_eq] at hat
  have hpath : found.segments = path := by
    rw [← hrow.path, Row.segments, Row.segments, hat.2, hrow.text]
  rw [hfound, h.unique ⟨List.mem_of_find?_eq_some hfound, hat.1.1, hat.1.2, hpath⟩ hrow]

/-- No row is found under the text of a path where none stands. -/
theorem find?_eq_none {tables : Tables} {root : String} {path : Path} (hne : path ≠ [])
    (hplain : path.Plain) (hnone : ∀ row, ¬ tables.RowAt root path row) :
    tables.find? root (Path.format path) = none := by
  cases hfound : tables.find? root (Path.format path) with
  | none => rfl
  | some row =>
    have hat := List.find?_some hfound
    simp only [standsAt, Bool.and_eq_true, beq_iff_eq] at hat
    refine absurd ⟨List.mem_of_find?_eq_some hfound, hat.1.1, hat.1.2, ?_⟩ (hnone row)
    rw [Row.segments, hat.2, hplain.splitText_format hne]

/-- A row that stands at a path is found there, with its content read. -/
theorem IsSound.lookup_of_rowAt {tables : Tables} (h : tables.IsSound) {root : String}
    {path : Path} {row : Row} (hrow : tables.RowAt root path row) :
    ∃ read, row.read = .ok read ∧ read.row = row ∧
      tables.lookup root (Path.format path) = .ok (some read) := by
  obtain ⟨read, hread, heq⟩ := (h.kept hrow).read
  refine ⟨read, hread, heq, ?_⟩
  simp only [lookup, h.find?_of_rowAt hrow, hread]
  rfl

/-- Nothing is found where nothing is seen. -/
theorem IsSound.lookup_none {tables : Tables} (h : tables.IsSound) {root : String}
    {path : Path} (hne : path ≠ []) (hplain : path.Plain)
    (hview : tables.view root path = none) :
    tables.lookup root (Path.format path) = .ok none := by
  simp only [lookup, find?_eq_none hne hplain (h.not_rowAt hview)]

/-- A known root has at a path the place that is seen there. -/
theorem IsSound.placeAt {tables : Tables} (h : tables.IsSound) {root : String} {path : Path}
    (hroot : root ∈ tables.roots) (hplain : path.Plain) :
    tables.placeAt root path = .ok (match tables.view root path with
      | none => .missing
      | some (.branch _) => .branch
      | some (.leaf _) => .item) := by
  unfold Tables.placeAt
  by_cases hne : path = []
  · subst hne
    rw [if_pos rfl, h.view_root.2 hroot]
  · rw [if_neg hne]
    cases hview : tables.view root path with
    | none => simp only [h.lookup_none hne hplain hview]
    | some face =>
      obtain ⟨row, hrow⟩ := h.rowAt_of_view hne (by rw [hview]; rfl)
      obtain ⟨read, -, hread, hlookup⟩ := h.lookup_of_rowAt hrow
      simp only [hlookup, hread]
      rcases h.view_of_rowAt hrow with ⟨hkind, hsome⟩ | ⟨hkind, item, -, hsome⟩
      · rw [hview] at hsome
        cases hsome
        simp [hkind]
      · rw [hview] at hsome
        cases hsome
        simp [hkind]

/-! Tables that change below one root. -/

/-- Tables with fewer rows are sound if what the rows that are left stand below is left, too. -/
theorem IsSound.fewer {tables tables' : Tables} (h : tables.IsSound)
    (hdistinct : tables'.roots.Nodup) (hnamed : "" ∉ tables'.roots)
    (hroots : ∀ root ∈ tables.roots, root ∈ tables'.roots)
    (hnumbered : (tables'.rows.map Row.id).Nodup)
    (hfresh : ∀ row ∈ tables'.rows, row.id < tables'.nextId)
    (hrows : ∀ {root path row}, tables'.RowAt root path row → tables.RowAt root path row)
    (habove : ∀ {root above name row parent}, tables'.RowAt root (above ++ [name]) row →
      tables.RowAt root above parent → tables'.RowAt root above parent) : tables'.IsSound where
  rootsDistinct := hdistinct
  rootsNamed := hnamed
  numbered := hnumbered
  fresh := hfresh
  rooted := fun hrow => hroots _ (h.rooted (hrows hrow))
  unique := fun ha hb => h.unique (hrows ha) (hrows hb)
  legal := fun hrow => h.legal (hrows hrow)
  kept := fun hrow => h.kept (hrows hrow)
  closed := fun hrow hne => by
    obtain ⟨parent, hparent, hgroup⟩ := h.closed (hrows hrow) hne
    exact ⟨parent, habove hrow hparent, hgroup⟩

/-- What is seen at a path depends on the root and on the rows that stand there. -/
theorem IsSound.view_congr {tables tables' : Tables} (h : tables.IsSound) (h' : tables'.IsSound)
    {root : String} {path : Path} (hroot : root ∈ tables'.roots ↔ root ∈ tables.roots)
    (hrows : ∀ row, tables'.RowAt root path row ↔ tables.RowAt root path row) :
    tables'.view root path = tables.view root path := by
  apply Option.ext
  intro face
  rw [h'.view_eq_some_iff, h.view_eq_some_iff, hroot]
  simp only [hrows]

/-- A change of sound tables that is seen as `seen` leaves them sound. -/
structure Becomes (tables tables' : Tables) (root : String) (seen : Node.View) : Prop where
  sound : tables'.IsSound
  view : tables'.view = tables.view.put root seen

variable {tables tables' : Tables} {root : String} {seen : Node.View}

/-- Sound tables become themselves if what is seen stays. -/
theorem IsSound.becomes_self (h : tables.IsSound) (hseen : seen = tables.view root) :
    tables.Becomes tables root seen :=
  ⟨h, by rw [hseen, Graph.put_self]⟩

/-- What is seen of the root is what was said. -/
theorem Becomes.view_root (h : tables.Becomes tables' root seen) : tables'.view root = seen := by
  rw [h.view, Graph.put_same]

theorem Becomes.trans (h : tables.Becomes tables' root seen) {tables'' : Tables}
    {seen' : Node.View} (h' : tables'.Becomes tables'' root seen') :
    tables.Becomes tables'' root seen' :=
  ⟨h'.sound, by rw [h'.view, h.view, Graph.put_put]⟩

/-- Tables that keep the rows of all roots but one are seen to change below that one. -/
theorem IsSound.becomes (h : tables.IsSound) (h' : tables'.IsSound)
    (hroots : ∀ r, r ≠ root → (r ∈ tables'.roots ↔ r ∈ tables.roots))
    (hrows : ∀ r p row, r ≠ root → (tables'.RowAt r p row ↔ tables.RowAt r p row))
    (hseen : ∀ p, tables'.view root p = seen p) : tables.Becomes tables' root seen := by
  refine ⟨h', ?_⟩
  funext r p
  by_cases hr : root = r
  · subst hr
    rw [Graph.put_same, hseen]
  · have hne : r ≠ root := fun heq => hr heq.symm
    rw [Graph.put_of_ne hr]
    exact h.view_congr h' (hroots r hne) fun row => hrows r p row hne

/-! The numbers of rows. -/

/-- Each row has a number of its own, and the next number is that of no row. -/
structure IsNumbered (tables : Tables) : Prop where
  numbered : (tables.rows.map Row.id).Nodup
  fresh : ∀ row ∈ tables.rows, row.id < tables.nextId

/-- Sound tables have numbers for their rows. -/
theorem IsSound.isNumbered (h : tables.IsSound) : tables.IsNumbered :=
  ⟨h.numbered, h.fresh⟩

/-- A change of rows that leaves each its number leaves the numbers. -/
theorem ids_map {f : Row → Row} (hid : ∀ row, (f row).id = row.id) (rows : List Row) :
    (rows.map f).map Row.id = rows.map Row.id := by
  rw [List.map_map]
  exact List.map_congr_left fun row _ => hid row

/-- A mapping that leaves rows their numbers. -/
theorem IsNumbered.map (h : tables.IsNumbered) {f : Row → Row}
    (hid : ∀ row, (f row).id = row.id) :
    IsNumbered { tables with rows := tables.rows.map f } where
  numbered := by
    rw [ids_map hid]
    exact h.numbered
  fresh := by
    intro row hrow
    obtain ⟨old, hold, rfl⟩ := List.mem_map.1 hrow
    rw [hid]
    exact h.fresh old hold

end Tables

end TaskTree
