import TaskTree.Proofs.Tables.Writes

/-!
# Subtrees, name by name

A subtree of tables should be the active rows whose names start with those of a path
(`standsBelow`), whatever signs the names have.  It is told by measuring texts, and a measure stops
at a null.  So a path with a null has nothing below it, and a row that moves loses what its path
has behind a null.

That is all there is to it: a subtree is removed or archived row by row exactly unless something
stands below a path with a null, and it moves name by name exactly unless one of the rows below
has a path with a null (`subtree_exact_iff`).
-/

namespace TaskTree

namespace Tables

variable {tables after : Tables} {root : String} {path src dest : Path} {row : Row}

/-- The row is active, and its names start with a path. -/
def standsBelow (root : String) (path : Path) (row : Row) : Bool :=
  row.active && row.root == root && path.isPrefixOf row.segments

/-- The row with other names in the place of the first ones. -/
def renamed (src dest : Path) (row : Row) : Row :=
  { row with path := Path.format (dest ++ row.segments.drop src.length) }

/-- The tables without the rows below a path. -/
def removedBelow (tables : Tables) (root : String) (path : Path) : Tables :=
  { tables with rows := tables.rows.filter fun row => !standsBelow root path row }

/-- The tables with the rows below a path archived. -/
def archivedBelow (tables : Tables) (root : String) (path : Path) : Tables :=
  { tables with rows := tables.rows.map fun row =>
      if standsBelow root path row then { row with active := false } else row }

/-- The tables with other names in the place of a path where rows stand below it. -/
def renamedBelow (tables : Tables) (root : String) (src dest : Path) : Tables :=
  { tables with rows := tables.rows.map fun row =>
      if standsBelow root src row then renamed src dest row else row }

/-- A row stands below a path when it is active, of that root, and its names begin with the path. -/
theorem standsBelow_iff : standsBelow root path row = true ↔
    row.active = true ∧ row.root = root ∧ path <+: row.segments := by
  rw [standsBelow, Bool.and_eq_true, Bool.and_eq_true, beq_iff_eq, List.isPrefixOf_iff_prefix,
    and_assoc]

/-- Of the rows below a path, those belong to its subtree that stand at the path itself, and the
others if the path has no null. -/
theorem isWithin_iff_standsBelow (hne : path ≠ [])
    (hundotted : ∀ name ∈ path, Path.separator ∉ name.toList) :
    isWithin root (Path.format path) row = true ↔ standsBelow root path row = true ∧
      (row.segments = path ∨ '\x00' ∉ (Path.format path).toList) := by
  rw [isWithin_iff, standsBelow_iff, Path.splitText_format hne hundotted, and_assoc, and_assoc]
  refine and_congr_right fun _ => and_congr_right fun _ => ?_
  constructor
  · intro hcases
    rcases hcases with hsame | ⟨hpath, hbegins⟩
    · exact ⟨hsame ▸ List.prefix_refl _, .inl hsame⟩
    · exact ⟨hbegins, .inr hpath⟩
  · intro hboth
    obtain ⟨hbegins, hcases⟩ := hboth
    exact hcases.imp_right fun hpath => ⟨hpath, hbegins⟩

/-- A row below a path has the text of the path, or that with a dot and more behind it. -/
theorem path_of_standsBelow (h : standsBelow root src row = true) :
    ∃ q, row.segments = src ++ q ∧ row.path = Path.format (src ++ q) := by
  obtain ⟨-, -, q, hq⟩ := standsBelow_iff.1 h
  exact ⟨q, hq.symm, by rw [hq, Row.segments, Path.format_splitText]⟩

/-- A row of a subtree keeps its names behind the new ones exactly if it stands at the top, or if
its path has no null. -/
theorem movedPath_eq_iff (hsrc : src ≠ []) (hdest : dest ≠ [])
    (hbelow : standsBelow root src row = true)
    (hpath : row.segments = src ∨ '\x00' ∉ (Path.format src).toList) :
    movedPath (Path.format src) (Path.format dest) row.path = (renamed src dest row).path ↔
      row.segments = src ∨ '\x00' ∉ row.path.toList := by
  obtain ⟨q, hq, htext⟩ := path_of_standsBelow hbelow
  have hdrop : row.segments.drop src.length = q := by rw [hq, List.drop_left]
  rw [renamed, hdrop, htext]
  cases q with
  | nil =>
    rw [List.append_nil] at hq ⊢
    refine iff_of_true ?_ (.inl hq)
    have hshort : (Text.visible (Path.format src).toList).length ≤ (Path.format src).length := by
      rw [← String.length_toList]
      exact (List.takeWhile_prefix _).length_le
    rw [movedPath, Text.visibleDrop, List.drop_of_length_le hshort, List.append_nil]
    exact String.append_empty
  | cons name rest =>
    have hnot : row.segments ≠ src := by simp [hq]
    have hsrcPath := hpath.resolve_left hnot
    rw [or_iff_right hnot]
    constructor
    · intro hsame hnull
      rw [movedPath, ← String.toList_inj, String.toList_append, String.toList_ofList,
        Path.format_append hdest (by simp)] at hsame
      have hcut := List.append_cancel_left hsame
      rw [Path.format_append hsrc (by simp), ← hcut, List.mem_append] at hnull
      rcases hnull with hnull | hnull
      · exact hsrcPath hnull
      · exact Path.unended_visible _ (List.mem_of_mem_drop hnull)
    · exact movedPath_format hsrc hdest

/-! Rows that move. -/

/-- Rows that have been moved one after another are moved all together. -/
theorem moveRows_eq_ok {src dest : String} {moving : List Row} {tables : Tables}
    (hmem : ∀ row ∈ moving, row ∈ tables.rows) (hnumbered : (tables.rows.map Row.id).Nodup)
    (hmoving : (moving.map Row.id).Nodup) (hok : moveRows src dest moving tables = .ok after) :
    after = { tables with rows := tables.rows.map (shifted src dest (moving.map Row.id)) } := by
  induction moving generalizing tables with
  | nil =>
    have hid : tables.rows.map (shifted src dest []) = tables.rows :=
      (List.map_congr_left fun row _ => if_neg (by simp)).trans (List.map_id _)
    cases hok
    rw [List.map_nil, hid]
  | cons row rest ih =>
    obtain ⟨hfirst, hrest⟩ := List.nodup_cons.1 hmoving
    unfold moveRows at hok
    cases hreplaced : tables.replace { row with path := movedPath src dest row.path } with
    | error rule =>
      simp only [hreplaced] at hok
      cases hok
    | ok middle =>
      simp only [hreplaced] at hok
      obtain ⟨rfl, -⟩ := replace_eq_ok hreplaced
      rw [ih ?_ ?_ hrest hok, List.map_cons,
        map_shifted_cons hnumbered (hmem row (List.mem_cons_self ..)) hfirst]
      · exact @rest_mem_moved _ _ row _ hmem hfirst
      · rw [ids_map (replaced_id { row with path := movedPath src dest row.path })]
        exact hnumbered

/-- The tables with the rows of a subtree at their new paths. -/
def withSubtreeAt (tables : Tables) (root src dest : String) : Tables :=
  { tables with rows := tables.rows.map fun row =>
      if isWithin root src row then { row with path := movedPath src dest row.path } else row }

/-- The rows of a subtree are shifted, and no others, each by its number. -/
theorem IsNumbered.map_shifted (h : tables.IsNumbered) (root src dest : String) :
    { tables with
      rows := tables.rows.map (shifted src dest ((tables.subtree root src).map Row.id)) } =
      tables.withSubtreeAt root src dest := by
  unfold withSubtreeAt
  rw [List.map_congr_left fun row hrow => ?_]
  simp only [shifted, h.id_mem_subtree_iff hrow]

/-- A subtree that is moved has its rows at the destination. -/
theorem IsNumbered.moveSubtree_eq_ok (h : tables.IsNumbered) {src dest : String}
    (hok : tables.moveSubtree root src dest = .ok after) :
    after = tables.withSubtreeAt root src dest := by
  rw [← h.map_shifted]
  exact moveRows_eq_ok (fun row hrow => (List.mem_filter.1 hrow).1) h.numbered
    (h.numbered.sublist (List.filter_sublist.map _)) hok

/-- A subtree moves if none of its new paths is one of an active row, and no two are the same. -/
theorem IsNumbered.moveSubtree_of_free (h : tables.IsNumbered) {src dest : String}
    (hfree : ∀ row ∈ tables.rows, isWithin root src row = true → ∀ other ∈ tables.rows,
      other.active = true → other.root = root → other.path ≠ movedPath src dest row.path)
    (happart : ∀ a ∈ tables.rows, ∀ b ∈ tables.rows, isWithin root src a = true →
      isWithin root src b = true → movedPath src dest a.path = movedPath src dest b.path → a = b) :
    tables.moveSubtree root src dest = .ok (tables.withSubtreeAt root src dest) := by
  have hmoving : ((tables.subtree root src).map Row.id).Nodup :=
    h.numbered.sublist (List.filter_sublist.map _)
  rw [← h.map_shifted]
  refine moveRows_of_free (fun row hrow => (List.mem_filter.1 hrow).1) h.numbered hmoving ?_ ?_
  · intro row hrow other hother hactive hroot
    obtain ⟨hmem, hwithin⟩ := List.mem_filter.1 hrow
    exact hfree row hmem hwithin other hother hactive
      (hroot.trans (prefix_of_isWithin hwithin).2.1)
  · refine (List.pairwise_map.1 hmoving).imp_of_mem fun {a b} ha hb hne _ hsame => hne ?_
    obtain ⟨hmem, hwithin⟩ := List.mem_filter.1 ha
    obtain ⟨hmem', hwithin'⟩ := List.mem_filter.1 hb
    rw [happart a hmem b hmem' hwithin hwithin' hsame]

/-- The names of a row that stands elsewhere. -/
theorem splitText_renamed (hdest : dest ≠ [])
    (hundotted : ∀ name ∈ dest, Path.separator ∉ name.toList) :
    Path.splitText (renamed src dest row).path = dest ++ row.segments.drop src.length := by
  refine Path.splitText_format (by simp [hdest]) fun name hname => ?_
  rcases List.mem_append.1 hname with hname | hname
  · exact hundotted name hname
  · exact Path.undotted_of_mem_splitText (List.mem_of_mem_drop hname)

/-- The rows below a path stand at the path itself, or the path has no null. -/
def IsReached (tables : Tables) (root : String) (path : Path) : Prop :=
  ∀ row ∈ tables.rows, standsBelow root path row = true →
    row.segments = path ∨ '\x00' ∉ (Path.format path).toList

/-- The rows below a path stand at the path itself, or their own paths have no null. -/
def IsReachedWhole (tables : Tables) (root : String) (path : Path) : Prop :=
  ∀ row ∈ tables.rows, standsBelow root path row = true →
    row.segments = path ∨ '\x00' ∉ row.path.toList

/-- A subtree that is reached whole is reached. -/
theorem IsReachedWhole.isReached (hne : path ≠ []) (h : tables.IsReachedWhole root path) :
    tables.IsReached root path := by
  intro row hrow hbelow
  obtain ⟨q, hq, htext⟩ := path_of_standsBelow hbelow
  cases q with
  | nil => exact .inl (hq.trans (List.append_nil _))
  | cons name rest =>
    have hpath := (h row hrow hbelow).resolve_left (by simp [hq])
    rw [htext, Path.format_append hne (by simp), List.mem_append, not_or] at hpath
    exact .inr hpath.1

/-- In a subtree that is reached, the rows of its text are those that stand below its path. -/
theorem IsReached.isWithin_eq (h : tables.IsReached root path) (hne : path ≠ [])
    (hundotted : ∀ name ∈ path, Path.separator ∉ name.toList) (hmem : row ∈ tables.rows) :
    isWithin root (Path.format path) row = standsBelow root path row := by
  rw [Bool.eq_iff_iff, isWithin_iff_standsBelow hne hundotted]
  exact and_iff_left_of_imp (h row hmem)

/-- A subtree moves name by name exactly if it is reached as a whole. -/
theorem IsLawful.moveSubtree_exact_iff (h : tables.IsLawful) (hsrc : src ≠ []) (hdest : dest ≠ [])
    (hundotted : ∀ name ∈ src, Path.separator ∉ name.toList)
    (hundotted' : ∀ name ∈ dest, Path.separator ∉ name.toList)
    (hfree : ∀ row ∈ tables.rows, standsBelow root src row = true → ∀ other ∈ tables.rows,
      other.active = true → other.root = root →
        other.segments ≠ dest ++ row.segments.drop src.length) :
    tables.moveSubtree root (Path.format src) (Path.format dest) =
        .ok (tables.renamedBelow root src dest) ↔
      tables.IsReachedWhole root src := by
  constructor
  · intro hok row hrow hbelow
    have hafter := congrArg Tables.rows (h.moveSubtree_eq_ok hok)
    have hsame := List.map_inj_left.1 hafter row hrow
    rw [if_pos hbelow] at hsame
    by_cases hwithin : isWithin root (Path.format src) row = true
    · rw [if_pos hwithin] at hsame
      have hreached := ((isWithin_iff_standsBelow hsrc hundotted).1 hwithin).2
      exact (movedPath_eq_iff hsrc hdest hbelow hreached).1 (congrArg Row.path hsame).symm
    · rw [if_neg hwithin] at hsame
      obtain ⟨hactive, hroot, -⟩ := standsBelow_iff.1 hbelow
      have hstays : row.segments = dest ++ row.segments.drop src.length := by
        rw [← splitText_renamed hdest hundotted', hsame]
        rfl
      exact absurd hstays (hfree row hrow hbelow row hrow hactive hroot)
  · intro hreached
    have hwithin : ∀ {row : Row}, row ∈ tables.rows →
        isWithin root (Path.format src) row = standsBelow root src row :=
      (hreached.isReached hsrc).isWithin_eq hsrc hundotted
    have hmoved : ∀ row ∈ tables.rows, isWithin root (Path.format src) row = true →
        movedPath (Path.format src) (Path.format dest) row.path = (renamed src dest row).path := by
      intro row hrow hin
      have hbelow := (hwithin hrow).symm.trans hin
      exact (movedPath_eq_iff hsrc hdest hbelow (hreached.isReached hsrc row hrow hbelow)).2
        (hreached row hrow hbelow)
    rw [h.moveSubtree_of_free]
    · unfold withSubtreeAt renamedBelow
      rw [List.map_congr_left fun row hrow => ?_]
      by_cases hin : isWithin root (Path.format src) row = true
      · rw [if_pos hin, if_pos ((hwithin hrow).symm.trans hin), hmoved row hrow hin]
        rfl
      · rw [if_neg hin, if_neg fun hbelow => hin ((hwithin hrow).trans hbelow)]
    · intro row hrow hin other hother hactive hroot hpath
      refine hfree row hrow ((hwithin hrow).symm.trans hin) other hother hactive hroot ?_
      rw [← splitText_renamed hdest hundotted', ← hmoved row hrow hin, ← hpath]
      rfl
    · intro a ha b hb hin hin' hsame
      obtain ⟨hactive, hroot, -⟩ := standsBelow_iff.1 ((hwithin ha).symm.trans hin)
      obtain ⟨hactive', hroot', -⟩ := standsBelow_iff.1 ((hwithin hb).symm.trans hin')
      obtain ⟨q, hq, htext⟩ := path_of_standsBelow ((hwithin ha).symm.trans hin)
      obtain ⟨q', hq', htext'⟩ := path_of_standsBelow ((hwithin hb).symm.trans hin')
      have hnames := congrArg Path.splitText hsame
      rw [hmoved a ha hin, hmoved b hb hin', splitText_renamed hdest hundotted',
        splitText_renamed hdest hundotted', List.append_right_inj, hq, hq', List.drop_left,
        List.drop_left] at hnames
      refine h.unique ha hb hactive hactive' (hroot.trans hroot'.symm) ?_
      rw [htext, htext', hnames]

/-- **Subtrees are exact unless a null is in the way.**  Where the rows below a path stand at the
path itself or the path has no null, and only there, exactly they are removed and archived.  They
move with all names behind the path, if none of the new paths is taken, exactly where those of
them that do not stand at the path itself have no null in theirs. -/
theorem subtree_exact_iff (tables : Tables) (root : String) {path : Path} (hne : path ≠ [])
    (hundotted : ∀ name ∈ path, Path.separator ∉ name.toList) :
    (tables.deleteSubtree root (Path.format path) = tables.removedBelow root path ↔
      tables.IsReached root path) ∧
    (tables.archiveSubtree root (Path.format path) = tables.archivedBelow root path ↔
      tables.IsReached root path) ∧
    ∀ dest : Path, tables.IsLawful → dest ≠ [] →
      (∀ name ∈ dest, Path.separator ∉ name.toList) →
      (∀ row ∈ tables.rows, standsBelow root path row = true → ∀ other ∈ tables.rows,
        other.active = true → other.root = root →
          other.segments ≠ dest ++ row.segments.drop path.length) →
      (tables.moveSubtree root (Path.format path) (Path.format dest) =
          .ok (tables.renamedBelow root path dest) ↔
        tables.IsReachedWhole root path) := by
  refine ⟨⟨fun hsame => ?_, fun hreached => ?_⟩, ⟨fun hsame => ?_, fun hreached => ?_⟩,
    fun dest h hdest hundotted' hfree =>
      h.moveSubtree_exact_iff hne hdest hundotted hundotted' hfree⟩
  · intro row hrow hbelow
    by_cases hwithin : isWithin root (Path.format path) row = true
    · exact ((isWithin_iff_standsBelow hne hundotted).1 hwithin).2
    · have hleft : row ∈ (tables.deleteSubtree root (Path.format path)).rows :=
        List.mem_filter.2 ⟨hrow, by simpa using hwithin⟩
      rw [hsame] at hleft
      have hgone := (List.mem_filter.1 hleft).2
      rw [hbelow] at hgone
      cases hgone
  · unfold deleteSubtree removedBelow
    rw [List.filter_congr fun row hrow => ?_]
    rw [hreached.isWithin_eq hne hundotted hrow]
  · intro row hrow hbelow
    by_cases hwithin : isWithin root (Path.format path) row = true
    · exact ((isWithin_iff_standsBelow hne hundotted).1 hwithin).2
    · have hrows := List.map_inj_left.1 (congrArg Tables.rows hsame) row hrow
      rw [if_neg hwithin, if_pos hbelow] at hrows
      have hactive := (standsBelow_iff.1 hbelow).1
      rw [hrows] at hactive
      cases hactive
  · unfold archiveSubtree archivedBelow
    rw [List.map_congr_left fun row hrow => ?_]
    rw [hreached.isWithin_eq hne hundotted hrow]

/-- Commands that lead to a subtree whose names have signs with a meaning elsewhere, and to a row
beside it whose path starts with the same sign. -/
def withSigns : List Command :=
  [.createRoot "r", .createSection "r" ["%"], .createSection "r" ["%", "a_b"],
   .createItem "r" ["%", "a_b", "𝄞"] "t" "" .done, .createSection "r" ["%a"]]

/-- The subtree moves with all its names. -/
theorem subtree_exact_iff_signs :
    let tables := (TableStore.run ⟨.empty, none, none⟩ withSigns).tables
    tables.deleteSubtree "r" (Path.format ["%"]) = tables.removedBelow "r" ["%"] ∧
      tables.archiveSubtree "r" (Path.format ["%"]) = tables.archivedBelow "r" ["%"] ∧
      tables.moveSubtree "r" (Path.format ["%"]) (Path.format ["_", "é"]) =
        .ok (tables.renamedBelow "r" ["%"] ["_", "é"]) ∧
      (tables.renamedBelow "r" ["%"] ["_", "é"]).rows.map Row.segments =
        [["_", "é"], ["_", "é", "a_b"], ["_", "é", "a_b", "𝄞"], ["%a"]] := by
  intro tables
  have hlawful : tables.IsLawful := TableStore.isLawful_run rfl withSigns
  have hexact := @subtree_exact_iff tables "r" ["%"] (by decide) (by decide)
  have hwhole : tables.IsReachedWhole "r" ["%"] := by
    unfold IsReachedWhole
    decide +kernel
  have hreached := hwhole.isReached (by decide)
  have hmoves := hexact.2.2 ["_", "é"] hlawful (by decide) (by decide) (by decide +kernel)
  exact ⟨hexact.1.2 hreached, hexact.2.1.2 hreached, hmoves.2 hwhole, by decide +kernel⟩

/-- Below a name with a null, a row is missed when the subtree of the name is removed. -/
theorem row_below_null_stays :
    let tables := (TableStore.run ⟨.empty, none, none⟩
      [.createRoot "r", .createSection "r" ["a\x00"], .createSection "r" ["a\x00", "b"]]).tables
    (tables.deleteSubtree "r" (Path.format ["a\x00"])).rows.map Row.segments =
        [["a\x00", "b"]] ∧
      (tables.removedBelow "r" ["a\x00"]).rows = [] := by
  decide +kernel

end Tables

end TaskTree
