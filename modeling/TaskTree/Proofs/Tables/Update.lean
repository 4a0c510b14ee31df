import Mathlib.Data.List.Nodup
import TaskTree.Proofs.Tables.Subtree

/-!
# Rows that are added and replaced

The rows of a subtree that are put below a branch, where nothing is seen, leave
sound tables behind, and are seen as `graft` (`IsSound.grafted`).  A row that is
added is such a subtree, and so is one in the place of the row of an item.
-/

namespace TaskTree

namespace Row

/-- A row has nothing below it. -/
theorem IsKept.view_cons {row : Row} (h : row.IsKept) {node : Node} (hnode : row.node? = some node)
    (segment : String) (rest : Path) : node.view (segment :: rest) = none := by
  rcases h.node? with ⟨-, hsection⟩ | ⟨-, item, hitem⟩
  · rw [hsection] at hnode
    cases hnode
    rfl
  · rw [hitem] at hnode
    cases hnode
    rfl

end Row

namespace Tables

variable {tables : Tables} {root : String}

/-- Rows at paths from one place that can stand there together, and what is seen of them. -/
structure IsSubtree (rows : Path → Row → Prop) (seen : Node.View) : Prop where
  unique : ∀ {q a b}, rows q a → rows q b → a = b
  legal : ∀ {q row}, rows q row → ∀ segment ∈ q, Path.IsLegal segment ∧ '\x00' ∉ segment.toList
  kept : ∀ {q row}, rows q row → row.IsKept
  closed : ∀ {q name row}, rows (q ++ [name]) row → ∃ parent, rows q parent ∧ parent.kind = .group
  seen_iff : ∀ {q face}, seen q = some face ↔
    ∃ row, rows q row ∧ row.node?.map Node.face = some face

/-- A row alone is a subtree. -/
theorem isSubtree_row {new : Row} {node : Node} (hkept : new.IsKept)
    (hnode : new.node? = some node) :
    IsSubtree (fun q row => q = [] ∧ row = new) node.view where
  unique := fun ha hb => ha.2.trans hb.2.symm
  legal := fun hrow segment hs => by
    rw [hrow.1] at hs
    exact absurd hs List.not_mem_nil
  kept := fun hrow => hrow.2.symm ▸ hkept
  closed := fun hrow => absurd hrow.1 (by simp)
  seen_iff := fun {q face} => by
    cases q with
    | nil => simp [hnode]
    | cons segment rest => simp [hkept.view_cons hnode]

/-- A row alone stands at the top of its subtree. -/
theorem stands_at_top_iff {new row : Row} {r : String} {p path : Path} :
    (row = new ∧ r = root ∧ p = path) ↔
      r = root ∧ ∃ q, p = path ++ q ∧ q = [] ∧ row = new := by
  constructor
  · intro hstands
    obtain ⟨hrow, hr, hp⟩ := hstands
    exact ⟨hr, [], by rw [hp, List.append_nil], rfl, hrow⟩
  · intro hstands
    obtain ⟨hr, q, hp, rfl, hrow⟩ := hstands
    exact ⟨hrow, hr, by rw [hp, List.append_nil]⟩

/-- The rows of a subtree are put below a branch where nothing is seen. -/
structure Grafts (tables tables' : Tables) (root : String) (above : Path) (name : String)
    (rows : Path → Row → Prop) : Prop where
  legal : ∀ segment ∈ above ++ [name], Path.IsLegal segment ∧ '\x00' ∉ segment.toList
  under : (tables.view root).IsBranchAt above
  free : tables.view root (above ++ [name]) = none
  roots : tables'.roots = tables.roots
  numbered : (tables'.rows.map Row.id).Nodup
  fresh : ∀ row ∈ tables'.rows, row.id < tables'.nextId
  rows_iff : ∀ r p row, tables'.RowAt r p row ↔
    tables.RowAt r p row ∨ (r = root ∧ ∃ q, p = above ++ [name] ++ q ∧ rows q row)

variable {tables' : Tables} {above : Path} {name : String}

/-- No row is met where a subtree is put. -/
theorem Grafts.not_rowAt (h : tables.IsSound) {rows : Path → Row → Prop}
    (hgrafts : tables.Grafts tables' root above name rows) (q : Path) (row : Row) :
    ¬ tables.RowAt root (above ++ [name] ++ q) row :=
  h.not_rowAt (h.view_none_append hgrafts.free q) row

/-- Just the rows of the subtree stand where it is put. -/
theorem Grafts.rowAt_iff (h : tables.IsSound) {rows : Path → Row → Prop}
    (hgrafts : tables.Grafts tables' root above name rows) (q : Path) (row : Row) :
    tables'.RowAt root (above ++ [name] ++ q) row ↔ rows q row := by
  rw [hgrafts.rows_iff]
  constructor
  · intro hcases
    rcases hcases with hold | ⟨-, q', heq, hnew⟩
    · exact absurd hold (hgrafts.not_rowAt h q row)
    · obtain rfl := List.append_cancel_left heq
      exact hnew
  · intro hnew
    exact .inr ⟨rfl, q, rfl, hnew⟩

/-- A subtree that is put where nothing was seen leaves sound tables. -/
theorem IsSound.grafted_sound (h : tables.IsSound) {rows : Path → Row → Prop} {seen : Node.View}
    (hsubtree : IsSubtree rows seen) (hgrafts : tables.Grafts tables' root above name rows) :
    tables'.IsSound := by
  have hempty := hgrafts.not_rowAt h
  have hrows := hgrafts.rows_iff
  refine ⟨hgrafts.roots ▸ h.rootsDistinct, hgrafts.roots ▸ h.rootsNamed, hgrafts.numbered,
    hgrafts.fresh, ?_, ?_, ?_, ?_, ?_⟩
  · intro r p row hrow
    rw [hgrafts.roots]
    rcases (hrows r p row).1 hrow with hold | ⟨rfl, -⟩
    · exact h.rooted hold
    · exact h.root_of_view hgrafts.under.isSome
  · intro r p a b ha hb
    rcases (hrows r p a).1 ha with hold | ⟨rfl, q, rfl, hnew⟩
    · rcases (hrows r p b).1 hb with hold' | ⟨rfl, q, rfl, -⟩
      · exact h.unique hold hold'
      · exact absurd hold (hempty q a)
    · rcases (hrows r _ b).1 hb with hold | ⟨-, q', heq, hnew'⟩
      · exact absurd hold (hempty q b)
      · obtain rfl := List.append_cancel_left heq
        exact hsubtree.unique hnew hnew'
  · intro r p row hrow segment hs
    rcases (hrows r p row).1 hrow with hold | ⟨-, q, rfl, hnew⟩
    · exact h.legal hold segment hs
    · rcases List.mem_append.1 hs with hs | hs
      · exact hgrafts.legal segment hs
      · exact hsubtree.legal hnew segment hs
  · intro r p row hrow
    rcases (hrows r p row).1 hrow with hold | ⟨-, q, -, hnew⟩
    · exact h.kept hold
    · exact hsubtree.kept hnew
  · intro r up last row hrow hup
    rcases (hrows r _ row).1 hrow with hold | ⟨rfl, q, heq, hnew⟩
    · obtain ⟨parent, hparent, hgroup⟩ := h.closed hold hup
      exact ⟨parent, (hrows r up parent).2 (.inl hparent), hgroup⟩
    · by_cases hq : q = []
      · rw [hq, List.append_nil] at heq
        obtain ⟨rfl, -⟩ := List.append_inj' heq rfl
        obtain ⟨parent, hparent, hgroup⟩ := h.group_of_branch hup hgrafts.under
        exact ⟨parent, (hrows r up parent).2 (.inl hparent), hgroup⟩
      · obtain ⟨q, last', rfl⟩ := Path.exists_above hq
        rw [← List.append_assoc] at heq
        obtain ⟨rfl, -⟩ := List.append_inj' heq rfl
        obtain ⟨parent, hparent, hgroup⟩ := hsubtree.closed hnew
        exact ⟨parent, (hrows r _ parent).2 (.inr ⟨rfl, q, rfl, hparent⟩), hgroup⟩

/-- A subtree that is put where nothing was seen is seen there. -/
theorem IsSound.grafted (h : tables.IsSound) {rows : Path → Row → Prop} {seen : Node.View}
    (hsubtree : IsSubtree rows seen) (hgrafts : tables.Grafts tables' root above name rows) :
    tables.Becomes tables' root ((tables.view root).graft (above ++ [name]) seen) := by
  have hsound := h.grafted_sound hsubtree hgrafts
  have hrows := hgrafts.rows_iff
  refine h.becomes hsound (fun r _ => by rw [hgrafts.roots]) ?_ ?_
  · intro r p row hr
    simp [hrows, hr]
  · intro p
    by_cases hbegins : above ++ [name] <+: p
    · obtain ⟨q, rfl⟩ := hbegins
      rw [Node.graft_append_path]
      apply Option.ext
      intro face
      have hat := hgrafts.rowAt_iff h q
      rw [hsound.view_eq_some_iff, hsubtree.seen_iff]
      constructor
      · intro hcases
        rcases hcases with ⟨hnil, -⟩ | ⟨row, hrow, hface⟩
        · simp at hnil
        · exact ⟨row, (hat row).1 hrow, hface⟩
      · intro hthere
        obtain ⟨row, hrow, hface⟩ := hthere
        exact .inr ⟨row, (hat row).2 hrow, hface⟩
    · rw [Node.graft_elsewhere hbegins]
      apply h.view_congr hsound (by rw [hgrafts.roots])
      intro row
      have hp : ∀ q, p ≠ above ++ [name] ++ q := fun q heq => hbegins ⟨q, heq.symm⟩
      simp only [hrows, hp, false_and, exists_false, and_false, or_false]

/-! Rows that are added. -/

/-- The active rows once another active row is added. -/
theorem rowAt_append {new : Row} {nextId : Nat} (hactive : new.active = true) (r : String)
    (p : Path) (row : Row) :
    RowAt { tables with rows := tables.rows ++ [new], nextId } r p row ↔
      tables.RowAt r p row ∨ (row = new ∧ r = new.root ∧ p = new.segments) := by
  constructor
  · intro hrow
    rcases List.mem_append.1 hrow.mem with hold | hnew
    · exact .inl ⟨hold, hrow.active, hrow.root, hrow.path⟩
    · obtain rfl := List.mem_singleton.1 hnew
      exact .inr ⟨rfl, hrow.root.symm, hrow.path.symm⟩
  · intro hcases
    rcases hcases with hold | ⟨rfl, rfl, rfl⟩
    · exact ⟨List.mem_append_left _ hold.mem, hold.active, hold.root, hold.path⟩
    · exact ⟨List.mem_append_right _ (List.mem_singleton.2 rfl), hactive, rfl, rfl⟩

/-- A row that is added gets the next number, which is that of no row. -/
theorem IsNumbered.append (h : tables.IsNumbered) {new : Row} (hid : new.id = tables.nextId) :
    IsNumbered { tables with rows := tables.rows ++ [new], nextId := tables.nextId + 1 } where
  numbered := by
    rw [List.map_append, List.nodup_append]
    refine ⟨h.numbered, by simp, ?_⟩
    intro id hmem id' hmem' heq
    obtain ⟨row, hrow, rfl⟩ := List.mem_map.1 hmem
    have hfresh := h.fresh row hrow
    simp only [List.map_cons, List.map_nil, List.mem_singleton] at hmem'
    omega
  fresh := by
    intro row hrow
    rcases List.mem_append.1 hrow with hold | hnew
    · exact Nat.lt_succ_of_lt (h.fresh row hold)
    · rw [List.mem_singleton.1 hnew, hid]
      exact Nat.lt_succ_self _

/-- A row is added below a branch where nothing is seen. -/
theorem IsSound.insert (h : tables.IsSound) {kind : RowKind} {content : Option String} {node : Node}
    (hlegal : ∀ segment ∈ above ++ [name], Path.IsLegal segment ∧ '\x00' ∉ segment.toList)
    (hunder : (tables.view root).IsBranchAt above)
    (hfree : tables.view root (above ++ [name]) = none)
    (hkept : ∀ row : Row, row.kind = kind → row.content = content →
      row.IsKept ∧ row.node? = some node) :
    ∃ tables', tables.insert root (Path.format (above ++ [name])) kind.word content = .ok tables' ∧
      tables.Becomes tables' root ((tables.view root).graft (above ++ [name]) node.view) := by
  have hnone := find?_eq_none (by simp) (Path.plain_of_legal hlegal) (h.not_rowAt hfree)
  have hroot : root ∈ tables.roots := h.root_of_view hunder.isSome
  obtain ⟨new, hnew⟩ : ∃ new : Row,
      new = ⟨tables.nextId, root, Path.format (above ++ [name]), kind, content, true⟩ := ⟨_, rfl⟩
  have hsegments : new.segments = above ++ [name] := by
    rw [hnew]
    exact (Path.plain_of_legal hlegal).splitText_format (by simp)
  have hid : new.id = tables.nextId := by rw [hnew]
  have hplace : new.root = root := by rw [hnew]
  obtain ⟨hgood, hnode⟩ := hkept new (by rw [hnew]) (by rw [hnew])
  have hok : tables.insert root (Path.format (above ++ [name])) kind.word content =
      .ok { tables with rows := tables.rows ++ [new], nextId := tables.nextId + 1 } := by
    simp [Tables.insert, hnone, hasRoot, hroot, hnew]
  refine ⟨_, hok, h.grafted (isSubtree_row hgood hnode) ⟨hlegal, hunder, hfree, rfl,
    (h.isNumbered.append hid).numbered, (h.isNumbered.append hid).fresh, ?_⟩⟩
  intro r p row
  rw [rowAt_append (by rw [hnew]), hsegments, hplace, stands_at_top_iff]

/-! Rows of items that are replaced. -/

/-- Rows of one number are the same row. -/
theorem IsNumbered.eq_of_id (h : tables.IsNumbered) {a b : Row} (ha : a ∈ tables.rows)
    (hb : b ∈ tables.rows) (hid : a.id = b.id) : a = b :=
  List.inj_on_of_nodup_map h.numbered ha hb hid

/-- Each row is found by its number. -/
theorem IsNumbered.row?_of_mem (h : tables.IsNumbered) {row : Row} (hmem : row ∈ tables.rows) :
    tables.row? row.id = some row := by
  have hsome : (tables.row? row.id).isSome := by
    rw [row?, List.find?_isSome]
    exact ⟨row, hmem, beq_self_eq_true _⟩
  obtain ⟨found, hfound⟩ := Option.isSome_iff_exists.1 hsome
  have hid : found.id = row.id := by simpa using List.find?_some hfound
  rw [hfound, h.eq_of_id (List.mem_of_find?_eq_some hfound) hmem hid]

/-- A row is replaced by one whose path no other row has. -/
theorem replace_of_free {new : Row} (hfree : ∀ row ∈ tables.rows, row.active = true →
      row.root = new.root → row.path = new.path → row.id = new.id) :
    tables.replace new =
      .ok { tables with rows := tables.rows.map fun r => if r.id = new.id then new else r } := by
  have htaken : tables.isTaken new.root new.path new.id = false := by
    rw [isTaken, List.any_eq_false]
    intro row hrow
    simp only [standsAt, Bool.and_eq_true, beq_iff_eq, bne_iff_ne, not_and, Decidable.not_not]
    intro hstands
    obtain ⟨⟨hactive, hroot⟩, hpath⟩ := hstands
    exact hfree row hrow hactive hroot hpath
  rw [replace, htaken, Bool.and_false, if_neg (by decide)]

/-- A row in the place of the row with its number has that number. -/
theorem replaced_id (new row : Row) : (if row.id = new.id then new else row).id = row.id := by
  by_cases h : row.id = new.id
  · rw [if_pos h, h]
  · rw [if_neg h]

/-- The active rows once one of them is replaced by another active row. -/
theorem rowAt_replace {new : Row} (hthere : ∃ row ∈ tables.rows, row.id = new.id)
    (hactive : new.active = true) (r : String) (p : Path) (row : Row) :
    RowAt { tables with
        rows := tables.rows.map fun r => if r.id = new.id then new else r } r p row ↔
      (tables.RowAt r p row ∧ row.id ≠ new.id) ∨
        (row = new ∧ r = new.root ∧ p = new.segments) := by
  constructor
  · intro hrow
    obtain ⟨old, hold, heq⟩ := List.mem_map.1 hrow.mem
    by_cases hid : old.id = new.id
    · rw [if_pos hid] at heq
      subst heq
      exact .inr ⟨rfl, hrow.root.symm, hrow.path.symm⟩
    · rw [if_neg hid] at heq
      subst heq
      exact .inl ⟨⟨hold, hrow.active, hrow.root, hrow.path⟩, hid⟩
  · intro hcases
    rcases hcases with ⟨hold, hid⟩ | ⟨rfl, rfl, rfl⟩
    · exact ⟨List.mem_map.2 ⟨row, hold.mem, if_neg hid⟩, hold.active, hold.root, hold.path⟩
    · obtain ⟨old, hold, hid⟩ := hthere
      exact ⟨List.mem_map.2 ⟨old, hold, if_pos hid⟩, hactive, rfl, rfl⟩

/-- The other rows than that of an item are those outside of its subtree. -/
theorem IsSound.other_iff (h : tables.IsSound) {path : Path} {row : Row}
    (hrow : tables.RowAt root path row) (hitem : row.kind = .item) {r : String} {p : Path}
    {other : Row} (hother : tables.RowAt r p other) :
    other.id ≠ row.id ↔ ¬ (r = root ∧ path <+: p) := by
  constructor
  · intro hid hin
    obtain ⟨rfl, more, rfl⟩ := hin
    obtain rfl := h.item_below hrow hitem (h.isSome_of_rowAt hother)
    rw [List.append_nil] at hother
    exact hid (by rw [h.unique hother hrow])
  · intro houtside hid
    obtain rfl := List.inj_on_of_nodup_map h.numbered hother.mem hrow.mem hid
    have hsame : path = p := hrow.path.symm.trans hother.path
    exact houtside ⟨hother.root.symm.trans hrow.root, hsame ▸ List.prefix_refl _⟩

/-- No other row than that of an item stands where nothing is seen without the item. -/
theorem IsSound.replace_of_item (h : tables.IsSound) {path : Path} {row new : Row}
    (hrow : tables.RowAt root path row) (hitem : row.kind = .item)
    (hfree : (tables.view root).prune path new.segments = none) (hid : new.id = row.id)
    (hroot : new.root = root) :
    tables.replace new =
      .ok { tables with rows := tables.rows.map fun r => if r.id = new.id then new else r } := by
  apply replace_of_free
  intro other hmem hactive hotherRoot hotherPath
  have hat : tables.RowAt root new.segments other :=
    ⟨hmem, hactive, hotherRoot.trans hroot, by rw [Row.segments, Row.segments, hotherPath]⟩
  rw [hid]
  apply Decidable.byContradiction
  intro hne
  have houtside : ¬ path <+: new.segments :=
    fun hbegins => (h.other_iff hrow hitem hat).1 hne ⟨rfl, hbegins⟩
  have hsame : (tables.view root).prune path new.segments = tables.view root new.segments :=
    Node.graft_elsewhere houtside ..
  exact h.not_rowAt (hsame.symm.trans hfree) other hat

/-- The row of an item is replaced by the row of another item, which may stand elsewhere
below a branch as long as nothing else is seen there. -/
theorem IsSound.replaceItem (h : tables.IsSound) {path : Path} {row new : Row} {node : Node}
    (hrow : tables.RowAt root path row) (hitem : row.kind = .item)
    (hlegal : ∀ segment ∈ above ++ [name], Path.IsLegal segment ∧ '\x00' ∉ segment.toList)
    (hunder : (tables.view root).IsBranchAt above)
    (hfree : (tables.view root).prune path (above ++ [name]) = none)
    (hid : new.id = row.id) (hactive : new.active = true) (hroot : new.root = root)
    (hpath : new.segments = above ++ [name]) (hkept : new.IsKept)
    (hnode : new.node? = some node) :
    ∃ tables', tables.replace new = .ok tables' ∧ tables.Becomes tables' root
      (((tables.view root).prune path).graft (above ++ [name]) node.view) := by
  have hplain : Path.Plain path := Path.plain_of_legal (h.legal hrow)
  have hcleared := @IsSound.deleteSubtree tables root h path hrow.ne_nil hplain
  have hunder' : ((tables.view root).prune path).IsBranchAt above :=
    hunder.prune (h.item_not_above hrow hitem hunder)
  have hplaced := hcleared.sound.grafted (isSubtree_row hkept hnode) <|
    @Grafts.mk (tables.deleteSubtree root (Path.format path))
      { tables with rows := tables.rows.map fun r => if r.id = new.id then new else r } root
      above name _ hlegal (hcleared.view_root.symm ▸ hunder') (hcleared.view_root.symm ▸ hfree)
      rfl (h.isNumbered.map (replaced_id new)).numbered
      (h.isNumbered.map (replaced_id new)).fresh <| by
    intro r p other
    rw [rowAt_replace ⟨row, hrow.mem, hid.symm⟩ hactive, hroot, hpath,
      rowAt_deleteSubtree hrow.ne_nil hplain, stands_at_top_iff, hid]
    exact or_congr_left (and_congr_right fun hother => h.other_iff hrow hitem hother)
  rw [hcleared.view_root] at hplaced
  exact ⟨_, h.replace_of_item hrow hitem (hpath.symm ▸ hfree) hid hroot, hcleared.trans hplaced⟩

end Tables

end TaskTree
