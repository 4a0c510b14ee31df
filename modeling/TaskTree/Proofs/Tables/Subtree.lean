import TaskTree.Proofs.Tables.Rows

/-!
# Subtrees of sound tables

The rows of a subtree are those whose paths start with the path of its top
(`isWithin_format_iff`).  Removing and archiving a subtree leave the same rows active,
so both are seen as `prune`; moving one takes each of its rows to the same
place below another top.
-/

namespace TaskTree.Tables

variable {tables : Tables} {root : String}

/-- A text goes on after another if a dot and more come behind the other.  Nothing goes on after
a text with a null, since not all of that counts. -/
theorem goesOnAfter_iff {path candidate : String} :
    goesOnAfter path candidate = true ↔
      '\x00' ∉ path.toList ∧ ∃ rest, candidate.toList = path.toList ++ Path.separator :: rest := by
  unfold goesOnAfter Text.visibleLength Text.visibleTake
  simp only [beq_iff_eq]
  constructor
  · intro h
    have hlength := congrArg List.length h
    have hwhole : Text.visible (path.toList ++ [Path.separator]) =
        path.toList ++ [Path.separator] := by
      refine (List.takeWhile_prefix _).eq_of_length_le ?_
      rw [List.length_take] at hlength
      exact hlength ▸ Nat.min_le_left ..
    have hpath : '\x00' ∉ path.toList ++ [Path.separator] :=
      hwhole ▸ Path.unended_visible (path.toList ++ [Path.separator])
    have hbegins : path.toList ++ [Path.separator] <+: candidate.toList := by
      rw [← h]
      exact (List.take_prefix ..).trans (List.takeWhile_prefix _)
    obtain ⟨rest, hrest⟩ := hbegins
    exact ⟨fun hmem => hpath (List.mem_append_left _ hmem), rest, by simp [← hrest]⟩
  · intro hgoes
    obtain ⟨hpath, rest, h⟩ := hgoes
    have hfront : '\x00' ∉ path.toList ++ [Path.separator] := by
      have hseparator : '\x00' ≠ Path.separator := by decide
      simp [hpath, hseparator]
    rw [Path.visible_of_unended hfront, h, List.append_cons path.toList Path.separator rest,
      Path.visible_append hfront, List.take_left]

/-- The names of a text start with those of another if the texts are equal or it goes on
after the other. -/
theorem prefix_splitText_iff {path candidate : String} :
    Path.splitText path <+: Path.splitText candidate ↔
      candidate = path ∨ ∃ rest, candidate.toList = path.toList ++ Path.separator :: rest := by
  constructor
  · intro hin
    obtain ⟨more, hmore⟩ := hin
    cases more with
    | nil => exact .inl (Path.splitText_injective (by simpa using hmore.symm))
    | cons segment more =>
      refine .inr ⟨(Path.format (segment :: more)).toList, ?_⟩
      rw [← Path.format_splitText candidate, ← hmore,
        Path.format_append (Path.splitText_ne_nil path) (by simp), Path.format_splitText]
  · intro hcases
    rcases hcases with rfl | ⟨rest, h⟩
    · exact List.prefix_refl _
    · rw [Path.splitText, Path.splitText, h, Text.split_append, List.map_append]
      exact List.prefix_append ..

/-- A row belongs to the subtree of a text if it has the same names, or if its names start with
them and the text has no null. -/
theorem isWithin_iff {text : String} {row : Row} :
    isWithin root text row = true ↔ row.active = true ∧ row.root = root ∧
      (row.segments = Path.splitText text ∨
        '\x00' ∉ text.toList ∧ Path.splitText text <+: row.segments) := by
  have hsame : row.path = text ↔ row.segments = Path.splitText text :=
    ⟨congrArg Path.splitText, Path.splitText_injective⟩
  unfold isWithin
  rw [Bool.and_eq_true, Bool.and_eq_true, Bool.or_eq_true, beq_iff_eq, beq_iff_eq, and_assoc,
    goesOnAfter_iff, ← hsame, Row.segments, prefix_splitText_iff]
  by_cases hnull : '\x00' ∈ text.toList
  · simp [hnull]
  · simp [hnull]

/-- What belongs to the subtree of a text starts with its names. -/
theorem prefix_of_isWithin {text : String} {row : Row} (h : isWithin root text row = true) :
    row.active = true ∧ row.root = root ∧ Path.splitText text <+: row.segments := by
  obtain ⟨hactive, hroot, hnames⟩ := isWithin_iff.1 h
  exact ⟨hactive, hroot, hnames.elim (fun hsame => hsame ▸ List.prefix_refl _) And.right⟩

/-- A row belongs to the subtree of a path if its names start with the path. -/
theorem isWithin_format_iff {path : Path} (hne : path ≠ []) (hplain : path.Plain) {row : Row} :
    isWithin root (Path.format path) row = true ↔
      row.active = true ∧ row.root = root ∧ path <+: row.segments := by
  have hpath : '\x00' ∉ (Path.format path).toList :=
    Path.unended_format fun segment hs => (hplain segment hs).unended
  rw [isWithin_iff, hplain.splitText_format hne]
  refine and_congr_right fun _ => and_congr_right fun _ => ?_
  constructor
  · intro hnames
    exact hnames.elim (fun hsame => hsame ▸ List.prefix_refl _) And.right
  · exact fun hbegins => .inr ⟨hpath, hbegins⟩

/-! Subtrees that are no longer active. -/

/-- Tables that have lost the active rows of a subtree are sound, and are seen pruned. -/
theorem IsSound.pruned {tables' : Tables} (h : tables.IsSound) {path : Path} (hne : path ≠ [])
    (hroots : tables'.roots = tables.roots)
    (hnumbered : (tables'.rows.map Row.id).Nodup)
    (hfresh : ∀ row ∈ tables'.rows, row.id < tables'.nextId)
    (hrows : ∀ r p row, tables'.RowAt r p row ↔
      tables.RowAt r p row ∧ ¬ (r = root ∧ path <+: p)) :
    tables.Becomes tables' root ((tables.view root).prune path) := by
  have hsound : tables'.IsSound := by
    apply h.fewer (hroots ▸ h.rootsDistinct) (hroots ▸ h.rootsNamed)
      (fun r hr => hroots ▸ hr) hnumbered hfresh
    · intro r p row hrow
      exact ((hrows r p row).1 hrow).1
    · intro r above name row parent hrow hparent
      have houtside := ((hrows r _ row).1 hrow).2
      refine (hrows r above parent).2 ⟨hparent, ?_⟩
      intro hin
      obtain ⟨rfl, hbegins⟩ := hin
      exact houtside ⟨rfl, hbegins.trans (List.prefix_append ..)⟩
  refine h.becomes hsound (fun r _ => by rw [hroots]) ?_ ?_
  · intro r p row hr
    simp [hrows, hr]
  · intro p
    by_cases hbegins : path <+: p
    · have hnone : (tables.view root).prune path p = none := if_pos hbegins
      have hp : p ≠ [] := fun hp => hne (List.prefix_nil.1 (hp ▸ hbegins))
      rw [hnone]
      apply hsound.view_eq_none hp
      intro row hrow
      exact ((hrows root p row).1 hrow).2 ⟨rfl, hbegins⟩
    · have hsame : (tables.view root).prune path p = tables.view root p :=
        Node.graft_elsewhere hbegins ..
      rw [hsame]
      apply h.view_congr hsound (by rw [hroots])
      intro row
      simp [hrows, hbegins]

/-- Deleting a subtree takes away the rows at and below its path, and no others. -/
theorem rowAt_deleteSubtree {path : Path} (hne : path ≠ []) (hplain : path.Plain)
    (r : String) (p : Path) (row : Row) :
    (tables.deleteSubtree root (Path.format path)).RowAt r p row ↔
      tables.RowAt r p row ∧ ¬ (r = root ∧ path <+: p) := by
  constructor
  · intro hrow
    have hmem := List.mem_filter.1 hrow.mem
    refine ⟨⟨hmem.1, hrow.active, hrow.root, hrow.path⟩, ?_⟩
    intro hin
    obtain ⟨rfl, hbegins⟩ := hin
    have hwithin := (isWithin_format_iff hne hplain).2
      ⟨hrow.active, hrow.root, hrow.path.symm ▸ hbegins⟩
    rw [hwithin] at hmem
    cases hmem.2
  · intro hleft
    obtain ⟨hrow, houtside⟩ := hleft
    refine ⟨List.mem_filter.2 ⟨hrow.mem, ?_⟩, hrow.active, hrow.root, hrow.path⟩
    rw [Bool.not_eq_true', ← Bool.not_eq_true, isWithin_format_iff hne hplain]
    intro hin
    obtain ⟨-, hroot, hbegins⟩ := hin
    exact houtside ⟨hrow.root.symm.trans hroot, hrow.path ▸ hbegins⟩

/-- A removed subtree is no longer seen. -/
theorem IsSound.deleteSubtree (h : tables.IsSound) {path : Path} (hne : path ≠ [])
    (hplain : path.Plain) :
    tables.Becomes (tables.deleteSubtree root (Path.format path)) root
      ((tables.view root).prune path) := by
  refine h.pruned hne rfl ?_ ?_ (rowAt_deleteSubtree hne hplain)
  · exact h.numbered.sublist (List.filter_sublist.map _)
  · exact fun row hrow => h.fresh row (List.mem_filter.1 hrow).1

/-- Archiving a subtree takes away the rows at and below its path, and no others. -/
theorem rowAt_archiveSubtree {path : Path} (hne : path ≠ []) (hplain : path.Plain)
    (r : String) (p : Path) (row : Row) :
    (tables.archiveSubtree root (Path.format path)).RowAt r p row ↔
      tables.RowAt r p row ∧ ¬ (r = root ∧ path <+: p) := by
  constructor
  · intro hrow
    obtain ⟨old, hold, heq⟩ := List.mem_map.1 hrow.mem
    by_cases hwithin : isWithin root (Path.format path) old = true
    · rw [if_pos hwithin] at heq
      have hactive := hrow.active
      rw [← heq] at hactive
      cases hactive
    · rw [if_neg hwithin] at heq
      subst heq
      refine ⟨⟨hold, hrow.active, hrow.root, hrow.path⟩, ?_⟩
      intro hin
      obtain ⟨rfl, hbegins⟩ := hin
      exact hwithin ((isWithin_format_iff hne hplain).2
        ⟨hrow.active, hrow.root, hrow.path.symm ▸ hbegins⟩)
  · intro hleft
    obtain ⟨hrow, houtside⟩ := hleft
    refine ⟨List.mem_map.2 ⟨row, hrow.mem, if_neg ?_⟩, hrow.active, hrow.root, hrow.path⟩
    rw [isWithin_format_iff hne hplain]
    intro hin
    obtain ⟨-, hroot, hbegins⟩ := hin
    exact houtside ⟨hrow.root.symm.trans hroot, hrow.path ▸ hbegins⟩

/-- An archived subtree is no longer seen. -/
theorem IsSound.archiveSubtree (h : tables.IsSound) {path : Path} (hne : path ≠ [])
    (hplain : path.Plain) :
    tables.Becomes (tables.archiveSubtree root (Path.format path)) root
      ((tables.view root).prune path) := by
  have hid : ∀ row : Row, (if isWithin root (Path.format path) row then
      { row with active := false } else row).id = row.id := by
    intro row
    by_cases hwithin : isWithin root (Path.format path) row = true <;> simp [hwithin]
  exact h.pruned hne rfl (h.isNumbered.map hid).numbered (h.isNumbered.map hid).fresh
    (rowAt_archiveSubtree hne hplain)

/-- A subtree has rows exactly if its top is seen. -/
theorem IsSound.subtreeSize_eq_zero_iff (h : tables.IsSound) {path : Path} (hne : path ≠ [])
    (hplain : path.Plain) :
    tables.subtreeSize root (Path.format path) = 0 ↔ tables.view root path = none := by
  unfold subtreeSize
  rw [List.countP_eq_zero]
  constructor
  · intro hcount
    refine h.view_eq_none hne fun row hrow => hcount row hrow.mem ?_
    exact (isWithin_format_iff hne hplain).2
      ⟨hrow.active, hrow.root, hrow.path.symm ▸ List.prefix_refl _⟩
  · intro hview row hmem hwithin
    obtain ⟨hactive, hroot, more, hmore⟩ := (isWithin_format_iff hne hplain).1 hwithin
    have hnone := h.view_none_append hview more
    rw [hmore] at hnone
    exact h.not_rowAt hnone row ⟨hmem, hactive, hroot, rfl⟩

end TaskTree.Tables
