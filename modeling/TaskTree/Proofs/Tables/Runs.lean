import TaskTree.Store
import TaskTree.Proofs.Tables.Query

/-!
# Runs on tables

Plain commands keep tables sound, one after another, whether they are done or
refused.  So whatever tables they lead to from empty ones can be read, and
their rows make a tree (`isTree_run`).
-/

namespace TaskTree

namespace TableStore

/-- A store of tables after commands, one after another. -/
def run (store : TableStore) (commands : List Command) : TableStore :=
  commands.foldl (fun store command => (store.execute command).1) store

/-- What the tables refuse the store does not do. -/
theorem tablesAfter_of_refused {store : TableStore} {command : Command} {failure : Failure}
    (h : store.tables.execute command = .error failure) :
    ∃ failure', store.tablesAfter command = .error failure' := by
  unfold tablesAfter
  rw [h]
  split
  · next heq => cases heq
  · exact ⟨_, rfl⟩
  · exact ⟨_, rfl⟩

/-- A command leaves the tables as they were, or as it leaves tables. -/
theorem tables_execute (store : TableStore) (command : Command) :
    (store.execute command).1.tables = store.tables ∨
      (store.execute command).1.tables =
        store.tables.settled (store.tables.execute command) := by
  cases hresult : store.tables.execute command with
  | error failure =>
    obtain ⟨failure', hrefused⟩ := tablesAfter_of_refused hresult
    exact .inl (by simp only [execute, hrefused])
  | ok tables =>
    by_cases hreadOnly : store.isReadOnly ∧ tables ≠ store.tables
    · exact .inl (by simp only [execute, tablesAfter, hresult, if_pos hreadOnly])
    · exact .inr (by
        simp only [execute, tablesAfter, hresult, if_neg hreadOnly, Tables.settled_ok])

/-- A command that a store does is done to its tables, and changes nothing that can only be
read. -/
theorem execute_eq_ok {store : TableStore} {command : Command}
    (h : (store.execute command).2 = .ok ()) :
    store.tables.execute command = .ok (store.execute command).1.tables ∧
      (store.execute command).1.home? = store.home? ∧
      (store.isReadOnly = true → (store.execute command).1.tables = store.tables) := by
  unfold execute tablesAfter at h ⊢
  cases hresult : store.tables.execute command with
  | error failure =>
    rw [hresult] at h
    split at h
    · cases h
    · next hok =>
      split at hok
      · next heq => cases heq
      · cases hok
      · cases hok
  | ok after =>
    rw [hresult] at h
    by_cases hreadOnly : store.isReadOnly = true ∧ after ≠ store.tables
    · simp only [if_pos hreadOnly] at h
      cases h
    · simp only [if_neg hreadOnly]
      refine ⟨trivial, trivial, fun hro => ?_⟩
      apply Decidable.byContradiction
      intro hchanged
      exact hreadOnly ⟨hro, hchanged⟩

/-- What can be done to tables is done by a store that can write, or need not. -/
theorem execute_of_ok {store : TableStore} {command : Command} {after : Tables}
    (hok : store.tables.execute command = .ok after)
    (hreadOnly : store.isReadOnly = true → after = store.tables) :
    (store.execute command).2 = .ok () ∧ (store.execute command).1.tables = after := by
  have hfree : ¬ (store.isReadOnly = true ∧ after ≠ store.tables) :=
    fun hboth => hboth.2 (hreadOnly hboth.1)
  simp only [execute, tablesAfter, hok, if_neg hfree, and_self]

/-- A command that fails leaves the store as it was. -/
theorem execute_eq_error {store : TableStore} {command : Command} {failure : Failure}
    (h : (store.execute command).2 = .error failure) :
    (store.execute command).1 = store := by
  unfold execute at h ⊢
  cases hresult : store.tablesAfter command with
  | error failure' => rfl
  | ok after =>
    rw [hresult] at h
    cases h

/-- A plain command leaves sound tables sound. -/
theorem isSound_execute {store : TableStore} (h : store.tables.IsSound) {command : Command}
    (hplain : command.IsPlain) : (store.execute command).1.tables.IsSound := by
  rcases store.tables_execute command with hsame | hdone
  · rw [hsame]
    exact h
  · rw [hdone]
    exact (h.execute hplain).1

/-- Plain commands keep tables sound, however many they are. -/
theorem isSound_run {store : TableStore} (h : store.tables.IsSound) {commands : List Command}
    (hplain : ∀ command ∈ commands, command.IsPlain) :
    (store.run commands).tables.IsSound := by
  induction commands generalizing store with
  | nil => exact h
  | cons command rest ih =>
    exact ih (isSound_execute h (hplain command (List.mem_cons_self ..)))
      fun c hc => hplain c (List.mem_cons_of_mem _ hc)

end TableStore

namespace Tables

variable {tables : Tables}

/-- No two active rows of a root have one path. -/
theorem IsSound.pairwise_apart (h : tables.IsSound) :
    tables.rows.Pairwise fun a b => a.active = true → b.active = true → a.root = b.root →
      a.path ≠ b.path := by
  refine (List.pairwise_map.1 h.numbered).imp_of_mem fun {a b} ha hb hid hactive hactive' hroot
    hpath => hid ?_
  have hrow : tables.RowAt a.root a.segments a := ⟨ha, hactive, rfl, rfl⟩
  have hrow' : tables.RowAt a.root a.segments b :=
    ⟨hb, hactive', hroot.symm, by rw [Row.segments, Row.segments, hpath]⟩
  rw [h.unique hrow hrow']

/-- The active rows of each root make a tree that can be read. -/
structure IsTree (tables : Tables) : Prop where
  /-- No two active rows of a root have one path. -/
  unique : tables.rows.Pairwise fun a b => a.active = true → b.active = true →
    a.root = b.root → a.path ≠ b.path
  /-- A row that is not directly below its root stands below the row of a section. -/
  parents : ∀ row ∈ tables.rows, row.active = true → 1 < row.segments.length →
    ∃ parent ∈ tables.rows, parent.active = true ∧ parent.root = row.root ∧
      parent.path = Path.format row.segments.dropLast ∧ parent.kind = .group
  /-- No row stands below the row of an item. -/
  leaves : ∀ row ∈ tables.rows, row.active = true → row.kind = .item →
    ∀ other ∈ tables.rows, other.active = true → other.root = row.root →
      ∀ segment rest, other.segments ≠ row.segments ++ segment :: rest
  /-- All names on the way to a row are legal. -/
  legal : ∀ row ∈ tables.rows, row.active = true →
    ∀ segment ∈ row.segments, Path.IsLegal segment
  /-- The content of the row of an item is that of an item. -/
  items : ∀ row ∈ tables.rows, row.active = true → row.kind = .item →
    ∃ read item, row.read = .ok read ∧ read.node = .ok (.leaf item)
  /-- Every read gives an answer. -/
  answers : ∀ root path, ∃ node?, tables.get root path = .ok node?
  /-- The answers do not depend on the order of the rows. -/
  unordered : ∀ rows, tables.rows.Perm rows → ∀ root path,
    Tables.get { tables with rows } root path = tables.get root path

/-- Sound tables make trees. -/
theorem IsSound.isTree (h : tables.IsSound) : tables.IsTree := by
  have hat : ∀ row ∈ tables.rows, row.active = true →
      tables.RowAt row.root row.segments row := fun row hmem hactive => ⟨hmem, hactive, rfl, rfl⟩
  refine ⟨h.pairwise_apart, ?_, ?_, ?_, ?_, ?_, fun rows hperm => h.get_perm hperm⟩
  · intro row hmem hactive hlong
    have hrow := hat row hmem hactive
    have hpath := (List.dropLast_concat_getLast hrow.ne_nil).symm
    have habove : row.segments.dropLast ≠ [] := by
      rw [← List.length_pos_iff, List.length_dropLast]
      omega
    rw [hpath] at hrow
    obtain ⟨parent, hparent, hgroup⟩ := h.closed hrow habove
    exact ⟨parent, hparent.mem, hparent.active, hparent.root, hparent.text, hgroup⟩
  · intro row hmem hactive hitem other hother hactive' hroot segment rest heq
    have hrow := hat row hmem hactive
    have hbelow : tables.RowAt row.root (row.segments ++ segment :: rest) other :=
      ⟨hother, hactive', hroot, heq⟩
    cases h.item_below hrow hitem (h.isSome_of_rowAt hbelow)
  · intro row hmem hactive segment hs
    exact (h.legal (hat row hmem hactive) segment hs).1
  · intro row hmem hactive hitem
    rcases h.kept (hat row hmem hactive) with ⟨hgroup, -⟩ | ⟨-, item, hcontent⟩
    · rw [hitem] at hgroup
      cases hgroup
    · obtain ⟨read, hread, hrow, hfields⟩ := Row.read_item hcontent
      refine ⟨read, item, hread, ?_⟩
      simp only [ReadRow.node, hrow, hitem, hfields, ItemFields.item?_ofItem]
  · intro root path
    obtain ⟨node?, hok, -⟩ := h.get root path
    exact ⟨node?, hok⟩

end Tables

namespace TableStore

/-- **Rows make trees.**  After any plain commands on empty tables, done or refused, the active
rows make trees.  So a node can always be read, and in whatever order the rows are kept it is
the same node. -/
theorem isTree_run (start : TableStore) (hstart : start.tables = .empty)
    (commands : List Command) (hplain : ∀ command ∈ commands, command.IsPlain) :
    (start.run commands).tables.IsTree :=
  (isSound_run (hstart ▸ Tables.isSound_empty) hplain).isTree

/-- A section moves with its item, over which a new one is then put. -/
theorem isTree_run_moved :
    (run ⟨.empty, none, none⟩
      [.createRoot "r", .createSection "r" ["a"], .createSection "r" ["b"],
       .createItem "r" ["a", "x"] "x" "" .notDone, .move "r" ["a"] ["b"],
       .updateItem "r" ["b", "a", "x"] "y.z" "" .done, .createSection "r" ["b", "a"],
       .archive "r" ["b"]]).tables.IsTree :=
  isTree_run _ rfl _ (by decide)

end TableStore

end TaskTree
