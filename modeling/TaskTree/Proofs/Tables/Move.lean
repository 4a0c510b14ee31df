import TaskTree.Proofs.Tables.Update

/-!
# Subtrees that move

Moving a subtree replaces its rows one after another.  No replacement meets a
taken path: nothing is seen at the new place, and rows that have already moved
came from other paths.  So the move is done as a whole, and it is seen as the
subtree grafted to its new place.
-/

namespace TaskTree.Tables

variable {tables : Tables} {root : String}

/-- A row of the subtree of a path has the same names behind the new path as behind the old. -/
theorem movedPath_format {src landing q : Path} (hsrc : src ≠ []) (hlanding : landing ≠ [])
    (hvisible : '\x00' ∉ (Path.format (src ++ q)).toList) :
    movedPath (Path.format src) (Path.format landing) (Path.format (src ++ q)) =
      Path.format (landing ++ q) := by
  rw [movedPath, Text.visibleDrop, Path.visible_of_unended hvisible, ← String.toList_inj,
    String.toList_append, String.toList_ofList, ← String.length_toList]
  cases q with
  | nil => simp
  | cons segment rest =>
    rw [Path.format_append hsrc (by simp), Path.format_append hlanding (by simp), List.drop_left]

/-- A row with its path moved if its number is among the given ones. -/
def shifted (src dest : String) (ids : List Nat) (row : Row) : Row :=
  if row.id ∈ ids then { row with path := movedPath src dest row.path } else row

@[simp] theorem shifted_id (src dest : String) (ids : List Nat) (row : Row) :
    (shifted src dest ids row).id = row.id := by
  rw [shifted]
  split <;> rfl

/-- One row is moved, and then the others. -/
theorem map_shifted_cons {src dest : String} {rows : List Row} {row : Row} {ids : List Nat}
    (hnumbered : (rows.map Row.id).Nodup) (hmem : row ∈ rows) (hfirst : row.id ∉ ids) :
    (rows.map fun r => if r.id = row.id then
        { row with path := movedPath src dest row.path } else r).map (shifted src dest ids) =
      rows.map (shifted src dest (row.id :: ids)) := by
  rw [List.map_map]
  refine List.map_congr_left fun r hr => ?_
  by_cases hid : r.id = row.id
  · obtain rfl := List.inj_on_of_nodup_map hnumbered hr hmem hid
    rw [Function.comp_apply, if_pos rfl, shifted, if_neg hfirst, shifted,
      if_pos (List.mem_cons_self ..)]
  · simp [shifted, hid]

/-- The rows that are still to be moved are left alone when the first one is moved. -/
theorem rest_mem_moved {rows rest : List Row} {row : Row} {path : String}
    (hmem : ∀ other ∈ row :: rest, other ∈ rows) (hfirst : row.id ∉ rest.map Row.id) :
    ∀ other ∈ rest, other ∈ rows.map fun r => if r.id = row.id then { row with path } else r := by
  intro other hother
  have hne : other.id ≠ row.id := fun heq => hfirst (heq ▸ List.mem_map_of_mem hother)
  exact List.mem_map.2 ⟨other, hmem other (List.mem_cons_of_mem _ hother), if_neg hne⟩

/-- Rows that meet no taken path and go to different paths are all moved. -/
theorem moveRows_of_free {src dest : String} {moving : List Row} {tables : Tables}
    (hmem : ∀ row ∈ moving, row ∈ tables.rows) (hnumbered : (tables.rows.map Row.id).Nodup)
    (hmoving : (moving.map Row.id).Nodup)
    (hfree : ∀ row ∈ moving, ∀ other ∈ tables.rows, other.active = true →
      other.root = row.root → other.path ≠ movedPath src dest row.path)
    (happart : moving.Pairwise fun a b =>
      a.root = b.root → movedPath src dest a.path ≠ movedPath src dest b.path) :
    moveRows src dest moving tables = .ok { tables with
      rows := tables.rows.map (shifted src dest (moving.map Row.id)) } := by
  induction moving generalizing tables with
  | nil =>
    have hid : tables.rows.map (shifted src dest []) = tables.rows :=
      (List.map_congr_left fun row _ => if_neg (by simp)).trans (List.map_id _)
    rw [moveRows, List.map_nil, hid]
  | cons row rest ih =>
    obtain ⟨hfirst, hrest⟩ := List.nodup_cons.1 hmoving
    obtain ⟨hfirstApart, hrestApart⟩ := List.pairwise_cons.1 happart
    have hthere := hmem row (List.mem_cons_self ..)
    have hreplaced := @replace_of_free tables { row with path := movedPath src dest row.path }
      fun other hother hactive hroot hpath =>
        absurd hpath (hfree row (List.mem_cons_self ..) other hother hactive hroot)
    rw [moveRows, hreplaced]
    simp only
    rw [ih]
    · rw [List.map_cons, map_shifted_cons hnumbered hthere hfirst]
    · exact rest_mem_moved hmem hfirst
    · rw [ids_map (replaced_id { row with path := movedPath src dest row.path })]
      exact hnumbered
    · exact hrest
    · intro moved hmoved other hother hactive hroot
      obtain ⟨old, hold, rfl⟩ := List.mem_map.1 hother
      by_cases hid : old.id = row.id
      · rw [if_pos hid] at hroot ⊢
        exact hfirstApart moved hmoved hroot
      · rw [if_neg hid] at hactive hroot ⊢
        exact hfree moved (List.mem_cons_of_mem _ hmoved) old hold hactive hroot
    · exact hrestApart

/-- A row shows the same node wherever it stands. -/
theorem node?_withPath (row : Row) (path : String) :
    Row.node? { row with path } = row.node? := by
  unfold Row.node? Row.read
  cases row.content with
  | none => rfl
  | some text =>
    by_cases hempty : text = ""
    · simp only [if_pos hempty]
      rfl
    · simp only [if_neg hempty]
      cases Json.read Json.textDepth text.toList with
      | ok v => rfl
      | error refusal => rfl

/-- The rows of the subtree of `src`, as they stand behind `landing`. -/
def MovedRow (tables : Tables) (root : String) (src landing q : Path) (row : Row) : Prop :=
  ∃ old, tables.RowAt root (src ++ q) old ∧ row = { old with path := Path.format (landing ++ q) }

/-- A subtree is the same behind another path. -/
theorem IsSound.isSubtree_moved (h : tables.IsSound) {src : Path} (hsrc : src ≠ [])
    (landing : Path) :
    IsSubtree (tables.MovedRow root src landing) fun q => tables.view root (src ++ q) where
  unique := by
    intro q a b ha hb
    obtain ⟨old, hold, rfl⟩ := ha
    obtain ⟨old', hold', rfl⟩ := hb
    rw [h.unique hold hold']
  legal := by
    intro q row hrow segment hs
    obtain ⟨old, hold, rfl⟩ := hrow
    exact h.legal hold segment (List.mem_append_right _ hs)
  kept := by
    intro q row hrow
    obtain ⟨old, hold, rfl⟩ := hrow
    have hkept : old.IsKept := h.kept hold
    exact hkept
  closed := by
    intro q name row hrow
    obtain ⟨old, hold, rfl⟩ := hrow
    rw [← List.append_assoc] at hold
    obtain ⟨parent, hparent, hgroup⟩ := h.closed hold (by simp [hsrc])
    exact ⟨_, ⟨parent, hparent, rfl⟩, hgroup⟩
  seen_iff := by
    intro q face
    rw [h.view_eq_some_iff]
    constructor
    · intro hcases
      rcases hcases with ⟨hnil, -⟩ | ⟨old, hold, hface⟩
      · simp [hsrc] at hnil
      · refine ⟨_, ⟨old, hold, rfl⟩, ?_⟩
        rw [node?_withPath]
        exact hface
    · intro hthere
      obtain ⟨row, ⟨old, hold, rfl⟩, hface⟩ := hthere
      rw [node?_withPath] at hface
      exact .inr ⟨old, hold, hface⟩

/-- The rows of a subtree and no others have a number of one of them. -/
theorem IsNumbered.id_mem_subtree_iff (h : tables.IsNumbered) {text : String} {row : Row}
    (hmem : row ∈ tables.rows) :
    row.id ∈ (tables.subtree root text).map Row.id ↔ isWithin root text row = true := by
  rw [List.mem_map]
  constructor
  · intro hthere
    obtain ⟨other, hother, hid⟩ := hthere
    obtain ⟨hotherMem, hwithin⟩ := List.mem_filter.1 hother
    rw [← h.eq_of_id hotherMem hmem hid]
    exact hwithin
  · exact fun hwithin => ⟨row, List.mem_filter.2 ⟨hmem, hwithin⟩, rfl⟩

/-- The rows of a subtree are the active ones of its root that stand at or below its path. -/
theorem IsSound.id_mem_subtree_iff (h : tables.IsSound) {path : Path} (hne : path ≠ [])
    (hplain : path.Plain) {row : Row} (hmem : row ∈ tables.rows) :
    row.id ∈ (tables.subtree root (Path.format path)).map Row.id ↔
      row.active = true ∧ row.root = root ∧ path <+: row.segments := by
  rw [h.isNumbered.id_mem_subtree_iff hmem, isWithin_format_iff hne hplain]

/-- The names of a row of the subtree of `src`, and those that it has behind `landing`. -/
theorem IsSound.movedPath_of_rowAt (h : tables.IsSound) {src landing q : Path} {row : Row}
    (hsrc : src ≠ []) (hlanding : landing ≠ []) (hat : tables.RowAt root (src ++ q) row) :
    movedPath (Path.format src) (Path.format landing) row.path = Path.format (landing ++ q) := by
  rw [hat.text]
  exact movedPath_format hsrc hlanding
    (Path.unended_format fun segment hs => (h.legal hat segment hs).2)

/-- A landed row reads back the path it has landed at. -/
theorem IsSound.splitText_landing (h : tables.IsSound) {src landing q : Path} {row : Row}
    (hlanding : landing ≠ []) (hlegal : ∀ segment ∈ landing, Path.IsLegal segment)
    (hat : tables.RowAt root (src ++ q) row) :
    Path.splitText (Path.format (landing ++ q)) = landing ++ q := by
  refine Path.splitText_format (by simp [hlanding]) fun segment hs => ?_
  rcases List.mem_append.1 hs with hs | hs
  · exact (hlegal segment hs).undotted
  · exact (h.legal hat segment (List.mem_append_right _ hs)).1.undotted

/-- The tables in which the rows of the subtree of `src` stand behind `landing`. -/
def withMoved (tables : Tables) (root : String) (src landing : Path) : Tables :=
  { tables with
    rows := tables.rows.map (shifted (Path.format src) (Path.format landing)
      ((tables.subtree root (Path.format src)).map Row.id)) }

/-- The active rows once the rows of a subtree stand behind `landing`. -/
theorem IsSound.rowAt_shifted (h : tables.IsSound) {src landing : Path} (hsrc : src ≠ [])
    (hplain : src.Plain) (hlanding : landing ≠ [])
    (hlegal : ∀ segment ∈ landing, Path.IsLegal segment) (r : String) (p : Path) (row : Row) :
    (tables.withMoved root src landing).RowAt r p row ↔
      (tables.RowAt r p row ∧ ¬ (r = root ∧ src <+: p)) ∨
        (r = root ∧ ∃ q, p = landing ++ q ∧ tables.MovedRow root src landing q row) := by
  constructor
  · intro hrow
    obtain ⟨old, hold, heq⟩ := List.mem_map.1 hrow.mem
    by_cases hin : old.id ∈ (tables.subtree root (Path.format src)).map Row.id
    · rw [shifted, if_pos hin] at heq
      obtain ⟨hactive, hroot, q, hq⟩ := (h.id_mem_subtree_iff hsrc hplain hold).1 hin
      have hat : tables.RowAt root (src ++ q) old := ⟨hold, hactive, hroot, hq.symm⟩
      rw [h.movedPath_of_rowAt hsrc hlanding hat] at heq
      subst heq
      have hp : landing ++ q = p := (h.splitText_landing hlanding hlegal hat).symm.trans hrow.path
      exact .inr ⟨hrow.root.symm.trans hroot, q, hp.symm, old, hat, rfl⟩
    · rw [shifted, if_neg hin] at heq
      subst heq
      refine .inl ⟨⟨hold, hrow.active, hrow.root, hrow.path⟩, ?_⟩
      intro hinside
      obtain ⟨rfl, hbegins⟩ := hinside
      exact hin ((h.id_mem_subtree_iff hsrc hplain hold).2
        ⟨hrow.active, hrow.root, hrow.path.symm ▸ hbegins⟩)
  · intro hcases
    rcases hcases with ⟨hold, hout⟩ | ⟨rfl, q, rfl, old, hat, rfl⟩
    · have hin : row.id ∉ (tables.subtree root (Path.format src)).map Row.id := by
        rw [h.id_mem_subtree_iff hsrc hplain hold.mem]
        intro hinside
        obtain ⟨-, hroot, hbegins⟩ := hinside
        exact hout ⟨hold.root.symm.trans hroot, hold.path ▸ hbegins⟩
      exact ⟨List.mem_map.2 ⟨row, hold.mem, if_neg hin⟩, hold.active, hold.root, hold.path⟩
    · have hin : old.id ∈ (tables.subtree r (Path.format src)).map Row.id :=
        (h.id_mem_subtree_iff hsrc hplain hat.mem).2
          ⟨hat.active, hat.root, hat.path.symm ▸ List.prefix_append ..⟩
      refine ⟨List.mem_map.2 ⟨old, hat.mem, ?_⟩, hat.active, hat.root,
        h.splitText_landing hlanding hlegal hat⟩
      rw [shifted, if_pos hin, h.movedPath_of_rowAt hsrc hlanding hat]

/-- The rows of a subtree, one after another, meet no taken path on their way. -/
theorem IsSound.moveRows_subtree (h : tables.IsSound) {src landing : Path} (hsrc : src ≠ [])
    (hplain : src.Plain) (hlanding : landing ≠ [])
    (hlegal : ∀ segment ∈ landing, Path.IsLegal segment)
    (hfree : tables.view root landing = none) :
    tables.moveSubtree root (Path.format src) (Path.format landing) =
      .ok (tables.withMoved root src landing) := by
  have hwithin : ∀ row ∈ tables.subtree root (Path.format src), ∃ q,
      tables.RowAt root (src ++ q) row := by
    intro row hrow
    obtain ⟨hmem, hin⟩ := List.mem_filter.1 hrow
    obtain ⟨hactive, hroot, q, hq⟩ := (isWithin_format_iff hsrc hplain).1 hin
    exact ⟨q, hmem, hactive, hroot, hq.symm⟩
  have hmoving : ((tables.subtree root (Path.format src)).map Row.id).Nodup :=
    h.numbered.sublist (List.filter_sublist.map _)
  refine moveRows_of_free (fun row hrow => (List.mem_filter.1 hrow).1) h.numbered hmoving ?_ ?_
  · intro row hrow other hother hactive hroot hpath
    obtain ⟨q, hat⟩ := hwithin row hrow
    refine h.not_rowAt (h.view_none_append hfree q) other
      ⟨hother, hactive, hroot.trans hat.root, ?_⟩
    rw [Row.segments, hpath, h.movedPath_of_rowAt hsrc hlanding hat,
      h.splitText_landing hlanding hlegal hat]
  · refine (List.pairwise_map.1 hmoving).imp_of_mem fun {a b} ha hb hne _ heq => hne ?_
    obtain ⟨q, hat⟩ := hwithin a ha
    obtain ⟨q', hat'⟩ := hwithin b hb
    rw [h.movedPath_of_rowAt hsrc hlanding hat, h.movedPath_of_rowAt hsrc hlanding hat'] at heq
    have hsplit := congrArg Path.splitText heq
    rw [h.splitText_landing hlanding hlegal hat, h.splitText_landing hlanding hlegal hat'] at hsplit
    obtain rfl := List.append_cancel_left hsplit
    rw [h.unique hat hat']

/-- **Subtrees move.**  A subtree moves below a branch outside of it where nothing is seen in
its new place: the move is not refused, and is seen as what it is. -/
theorem IsSound.moveSubtree (h : tables.IsSound) {src above : Path} {name : String}
    (hsrc : src ≠ []) (hplain : src.Plain)
    (hlegal : ∀ segment ∈ above ++ [name], Path.IsLegal segment ∧ '\x00' ∉ segment.toList)
    (houtside : ¬ src <+: above) (hunder : (tables.view root).IsBranchAt above)
    (hfree : tables.view root (above ++ [name]) = none) :
    ∃ tables', tables.moveSubtree root (Path.format src) (Path.format (above ++ [name])) =
        .ok tables' ∧ tables.Becomes tables' root
          (((tables.view root).prune src).graft (above ++ [name])
            fun q => tables.view root (src ++ q)) := by
  have hlegal' : ∀ segment ∈ above ++ [name], Path.IsLegal segment :=
    fun segment hs => (hlegal segment hs).1
  have hcleared := @IsSound.deleteSubtree tables root h src hsrc hplain
  have hunder' : ((tables.view root).prune src).IsBranchAt above := hunder.prune houtside
  have hfree' : (tables.view root).prune src (above ++ [name]) = none := by
    by_cases hin : src <+: above ++ [name]
    · exact if_pos hin
    · exact (Node.graft_elsewhere hin ..).trans hfree
  have hid := shifted_id (Path.format src) (Path.format (above ++ [name]))
    ((tables.subtree root (Path.format src)).map Row.id)
  have hmoved := hcleared.sound.grafted (h.isSubtree_moved hsrc (above ++ [name])) <|
    @Grafts.mk (tables.deleteSubtree root (Path.format src))
      (tables.withMoved root src (above ++ [name])) root above name _ hlegal
      (hcleared.view_root.symm ▸ hunder') (hcleared.view_root.symm ▸ hfree') rfl
      (h.isNumbered.map hid).numbered (h.isNumbered.map hid).fresh <| by
    intro r p row
    rw [h.rowAt_shifted hsrc hplain (by simp) hlegal', rowAt_deleteSubtree hsrc hplain]
  rw [hcleared.view_root] at hmoved
  exact ⟨_, h.moveRows_subtree hsrc hplain (by simp) hlegal' hfree, hcleared.trans hmoved⟩

end TaskTree.Tables
