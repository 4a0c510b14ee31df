import TaskTree.Proofs.Store.Agreement

/-!
# Names with dots in them

Tables know a path by its text only, and a name with dots in it makes the same text as several
names do (`spread`).  Creating looks at every name first, but no other command does: what it is
told to do at a path, it does at the path that the text is read as.

So a command whose names hold dots changes rows exactly if it meets a node under that text
(`Meets`).  Most of these changes leave trees.  A move does not if the name it brings along has
dots, since nothing need stand above such a name, or if it goes below itself in a spelling that
it does not see through (`Strays`).
-/

namespace TaskTree

/-- A toggle never leaves the state as it is. -/
theorem TaskState.toggled_ne (s : TaskState) : s.toggled ≠ s := by
  cases s <;> decide

namespace Path

/-- The path that the text of a path is read as: a name with dots in it becomes several. -/
def spread (path : Path) : Path :=
  path.flatMap splitText

@[simp] theorem spread_nil : spread [] = [] := rfl

theorem spread_concat (above : Path) (name : String) :
    spread (above ++ [name]) = spread above ++ splitText name := by
  rw [spread, List.flatMap_append, List.flatMap_singleton]
  rfl

theorem spread_ne_nil {path : Path} (h : path ≠ []) : spread path ≠ [] := by
  obtain ⟨above, name, rfl⟩ := exists_above h
  rw [spread_concat]
  exact List.append_ne_nil_of_right_ne_nil _ (splitText_ne_nil name)

/-- Reading the text of a path spreads its names. -/
theorem splitText_format_eq {path : Path} (hne : path ≠ []) :
    splitText (format path) = spread path := by
  induction path with
  | nil => exact absurd rfl hne
  | cons name rest ih =>
    cases rest with
    | nil => rw [format_singleton, spread, List.flatMap_singleton]
    | cons next more =>
      rw [format_cons_cons, splitText_append, ih (by simp), spread, spread, ← List.flatMap_cons]

@[simp] theorem format_spread (path : Path) : format (spread path) = format path := by
  by_cases hne : path = []
  · rw [hne, spread_nil]
  · rw [← splitText_format_eq hne, format_splitText]

/-- Spreading does not change where a path leads in the tables. -/
theorem place_spread (root : String) (path : Path) :
    place root (spread path) = place root path := by
  rw [place, place, format_spread]

/-- Only the empty path spreads to the empty path. -/
theorem spread_eq_nil_iff {path : Path} : spread path = [] ↔ path = [] :=
  ⟨fun h => Decidable.byContradiction fun hne => spread_ne_nil hne h, fun h => by rw [h]; rfl⟩

end Path

namespace Tables

variable {tables : Tables} {root : String} {path : Path}

/-! Looking at a text. -/

/-- The names on the way to something that is seen are good names. -/
theorem IsSound.legal_of_seen (h : tables.IsSound) (hseen : (tables.view root path).isSome) :
    ∀ segment ∈ path, Path.IsLegal segment ∧ '\x00' ∉ segment.toList := by
  by_cases hne : path = []
  · subst hne
    exact fun segment hmem => by cases hmem
  · obtain ⟨row, hrow⟩ := h.rowAt_of_view hne hseen
    exact h.legal hrow

/-- In sound tables a path that sees something has no dot in its names. -/
theorem IsSound.plain_of_seen (h : tables.IsSound) (hseen : (tables.view root path).isSome) :
    path.Plain :=
  Path.plain_of_legal (h.legal_of_seen hseen)

/-- The text of a path finds the row where the text leads, if there is one. -/
theorem IsSound.lookup_text (h : tables.IsSound) (root : String) (hne : path ≠ []) :
    (tables.view root path.spread = none ∧
      tables.lookup root (Path.format path) = .ok none) ∨
    ∃ row read, tables.RowAt root path.spread row ∧ row.read = .ok read ∧ read.row = row ∧
      tables.lookup root (Path.format path) = .ok (some read) := by
  cases hview : tables.view root path.spread with
  | none =>
    have hfound : tables.find? root (Path.format path) = none := by
      cases hfound : tables.find? root (Path.format path) with
      | none => rfl
      | some row =>
        have hat := List.find?_some hfound
        simp only [standsAt, Bool.and_eq_true, beq_iff_eq] at hat
        refine absurd ⟨List.mem_of_find?_eq_some hfound, hat.1.1, hat.1.2, ?_⟩
          (h.not_rowAt hview row)
        rw [Row.segments, hat.2, Path.splitText_format_eq hne]
    exact .inl ⟨rfl, by simp only [lookup, hfound]⟩
  | some face =>
    obtain ⟨row, hrow⟩ := h.rowAt_of_view (Path.spread_ne_nil hne) (by rw [hview]; rfl)
    obtain ⟨read, hread, hrowRead, hlookup⟩ := h.lookup_of_rowAt hrow
    rw [Path.format_spread] at hlookup
    exact .inr ⟨row, read, hrow, hread, hrowRead, hlookup⟩

/-- A path and its spread find the same place. -/
theorem placeAt_spread (tables : Tables) (root : String) (path : Path) :
    tables.placeAt root path.spread = tables.placeAt root path := by
  simp only [Tables.placeAt, Path.spread_eq_nil_iff, Path.format_spread]

/-- Where the spread path sees a branch, the tables find one. -/
theorem IsSound.placeAt_text_branch (h : tables.IsSound)
    (hbranch : (tables.view root).IsBranchAt path.spread) :
    tables.placeAt root path = .ok .branch := by
  rw [← placeAt_spread]
  exact h.placeAt_of_branch (h.plain_of_seen hbranch.isSome) hbranch

/-- Where the spread path sees no branch, the tables find nothing or an item. -/
theorem IsSound.placeAt_text_not_branch (h : tables.IsSound) (hroot : root ∈ tables.roots)
    (hnot : ¬ (tables.view root).IsBranchAt path.spread) :
    tables.placeAt root path = .ok .missing ∨ tables.placeAt root path = .ok .item := by
  by_cases hseen : (tables.view root path.spread).isSome
  · rw [← placeAt_spread]
    exact h.placeAt_of_not_branch (h.plain_of_seen hseen) hroot hnot
  · have hnone := Option.not_isSome_iff_eq_none.1 hseen
    have hne : path ≠ [] := by
      intro hnil
      rw [hnil, Path.spread_nil, h.view_root.2 hroot] at hnone
      cases hnone
    left
    rcases h.lookup_text root hne with ⟨-, hlookup⟩ | ⟨row, -, hrow, -⟩
    · simp only [Tables.placeAt, if_neg hne, hlookup]
    · exact absurd hrow (h.not_rowAt hnone row)

/-- No row belongs to the subtree of a text under which nothing is seen. -/
theorem IsSound.subtreeSize_text (h : tables.IsSound) (hne : path ≠ [])
    (hview : tables.view root path.spread = none) :
    tables.subtreeSize root (Path.format path) = 0 := by
  rw [subtreeSize, List.countP_eq_zero]
  intro row hmem hwithin
  obtain ⟨hactive, hroot, more, hmore⟩ := prefix_of_isWithin hwithin
  rw [Path.splitText_format_eq hne] at hmore
  exact h.not_rowAt (h.view_none_append hview more) row ⟨hmem, hactive, hroot, hmore.symm⟩

/-- Tables that come to show something else are other tables. -/
theorem Becomes.ne {tables' : Tables} {seen : Node.View} (h : tables.Becomes tables' root seen)
    {p : Path} (hp : seen p ≠ tables.view root p) : tables' ≠ tables := by
  intro heq
  rw [← h.view_root, heq] at hp
  exact hp rfl

/-! Toggling and archiving. -/

/-- Toggling at a path and at its spread is the same. -/
theorem toggleItem_spread (tables : Tables) (root : String) (path : Path) :
    tables.toggleItem root path.spread = tables.toggleItem root path := by
  simp only [Tables.toggleItem, Path.spread_eq_nil_iff, Path.format_spread, Path.place_spread]

/-- Archiving at a path and at its spread is the same. -/
theorem archive_spread (tables : Tables) (root : String) (path : Path) :
    tables.archive root path.spread = tables.archive root path := by
  simp only [Tables.archive, Path.spread_eq_nil_iff, Path.format_spread]

/-- Where the text of a path leads to no item, nothing is toggled. -/
theorem IsSound.toggleItem_elsewhere (h : tables.IsSound)
    (hnot : ¬ (tables.view root).IsItemAt path.spread) :
    tables.settled (tables.toggleItem root path) = tables := by
  unfold Tables.toggleItem
  by_cases hroot : root ∈ tables.roots
  · simp only [requireRoot_of_mem hroot, bind, Except.bind]
    by_cases hne : path = []
    · rw [if_pos hne, settled_error]
    · rw [if_neg hne]
      rcases h.lookup_text root hne with ⟨-, hlookup⟩ | ⟨row, read, hrow, -, hread, hlookup⟩
      · simp only [hlookup, liftMishap, settled_ok]
      · simp only [hlookup, liftMishap, hread]
        rcases h.view_of_rowAt hrow with ⟨hkind, -⟩ | ⟨-, item, -, hitem⟩
        · rw [hkind, if_neg (by decide), settled_error]
        · exact absurd ⟨item, hitem⟩ hnot
  · simp only [requireRoot_of_not_mem hroot, bind, Except.bind, settled_error]

/-- An item to which the text of a path leads is toggled. -/
theorem IsSound.toggleItem_met (h : tables.IsSound)
    (hitem : (tables.view root).IsItemAt path.spread) :
    (tables.settled (tables.toggleItem root path)).IsSound ∧
      tables.settled (tables.toggleItem root path) ≠ tables := by
  obtain ⟨item, hitem⟩ := hitem
  have hplain := h.plain_of_seen (by rw [hitem]; rfl : (tables.view root path.spread).isSome)
  have hbecomes := @IsSound.toggleItem tables root h path.spread hplain
  rw [toggleItem_spread] at hbecomes
  refine ⟨hbecomes.sound, hbecomes.ne (p := path.spread) ?_⟩
  have htoggled : (tables.view root).toggled path.spread path.spread =
      some (.leaf { item with state := item.state.toggled }) := by
    simp only [Node.View.toggled, hitem, Node.graft_path]
    exact Node.view_nil _
  rw [htoggled, hitem]
  intro heq
  have hsame : { item with state := item.state.toggled } = item :=
    Node.Face.leaf.inj (Option.some.inj heq)
  exact item.state.toggled_ne (congrArg Item.state hsame)

/-- Where the text of a path leads to nothing, nothing is archived. -/
theorem IsSound.archive_elsewhere (h : tables.IsSound)
    (hnot : ¬ (path ≠ [] ∧ (tables.view root path.spread).isSome)) :
    tables.settled (tables.archive root path) = tables := by
  unfold Tables.archive
  by_cases hroot : root ∈ tables.roots
  · have hnothing : path = [] ∨ tables.subtreeSize root (Path.format path) = 0 := by
      by_cases hne : path = []
      · exact .inl hne
      · refine .inr (h.subtreeSize_text hne (Option.not_isSome_iff_eq_none.1 fun hseen => ?_))
        exact hnot ⟨hne, hseen⟩
    simp only [requireRoot_of_mem hroot, bind, Except.bind, if_pos hnothing, settled_error]
  · simp only [requireRoot_of_not_mem hroot, bind, Except.bind, settled_error]

/-- What the text of a path leads to is archived. -/
theorem IsSound.archive_met (h : tables.IsSound) (hne : path ≠ [])
    (hseen : (tables.view root path.spread).isSome) :
    (tables.settled (tables.archive root path)).IsSound ∧
      tables.settled (tables.archive root path) ≠ tables := by
  have hbecomes := @IsSound.archive tables root h path.spread (h.plain_of_seen hseen)
  rw [archive_spread] at hbecomes
  refine ⟨hbecomes.sound, hbecomes.ne (p := path.spread) ?_⟩
  rw [Node.View.archived, if_pos ⟨Path.spread_ne_nil hne, hseen⟩, Node.View.prune, Node.graft_path]
  intro hnone
  rw [← hnone] at hseen
  cases hseen

/-! Updates. -/

/-- Where the text of a path leads to no item, nothing is replaced. -/
theorem IsSound.updateItem_elsewhere_text (h : tables.IsSound)
    (hnot : ¬ (tables.view root).IsItemAt path.spread) (item : Item) :
    tables.settled (tables.updateItem root path item) = tables := by
  unfold Tables.updateItem
  by_cases hne : path = []
  · rw [if_pos hne, settled_ok]
  · rw [if_neg hne]
    by_cases hroot : root ∈ tables.roots
    · simp only [requireRoot_of_mem hroot, bind, Except.bind]
      by_cases hunder : (tables.view root).IsBranchAt (Path.spread path.dropLast)
      · rw [h.placeAt_text_branch hunder]
        simp only
        rcases h.lookup_text root hne with
          ⟨-, hlookup⟩ | ⟨row, ⟨row', content⟩, hrow, -, rfl, hlookup⟩
        · simp only [hlookup, liftMishap, settled_ok]
        · simp only [hlookup, liftMishap]
          rcases h.view_of_rowAt hrow with ⟨hkind, -⟩ | ⟨-, item', -, hitem⟩
          · rw [hkind, if_neg (by decide), settled_error]
          · exact absurd ⟨item', hitem⟩ hnot
      · rcases h.placeAt_text_not_branch hroot hunder with hplace | hplace <;>
        · rw [hplace]
          rfl
    · simp only [requireRoot_of_not_mem hroot, bind, Except.bind, settled_error]

/-- The branch below which the text of a path leads to something. -/
theorem IsSound.branch_spread (h : tables.IsSound) {above : Path} {name : String}
    (hseen : (tables.view root (Path.spread (above ++ [name]))).isSome) :
    (tables.view root).IsBranchAt above.spread := by
  obtain ⟨first, more, hname⟩ := List.exists_cons_of_ne_nil (Path.splitText_ne_nil name)
  rw [Path.spread_concat, hname] at hseen
  exact h.branch_above hseen

/-- The item to which the text of a path leads is replaced if the name of the new title is
legal. -/
theorem IsSound.updateItem_of_text (h : tables.IsSound) {above : Path} {name : String} {row : Row}
    (hrow : tables.RowAt root (above ++ [name]).spread row) (hkind : row.kind = .item)
    (item : Item) :
    tables.updateItem root (above ++ [name]) item =
      match Path.checkSegment (Path.nameOfTitle item.title) with
      | .error fault => .error (.fault fault)
      | .ok _ => liftBroken
          (tables.rename row (Path.format (above ++ [Path.nameOfTitle item.title])) item) := by
  have hunder := h.branch_spread (h.isSome_of_rowAt hrow)
  have hlookup : ∃ content,
      tables.lookup root (Path.format (above ++ [name])) = .ok (some ⟨row, content⟩) := by
    obtain ⟨⟨row', content⟩, -, rfl, hlookup⟩ := h.lookup_of_rowAt hrow
    rw [Path.format_spread] at hlookup
    exact ⟨content, hlookup⟩
  obtain ⟨content, hlookup⟩ := hlookup
  unfold Tables.updateItem
  rw [if_neg (by simp), List.dropLast_concat]
  simp only [requireRoot_of_mem (h.rooted hrow), h.placeAt_text_branch hunder, bind,
    Except.bind, hlookup, liftMishap, hkind, if_true]
  cases hcheck : Path.checkSegment (Path.nameOfTitle item.title) with
  | error fault => rfl
  | ok u => rfl

/-- A row that gets another path leaves the one that it had. -/
theorem IsSound.rename_elsewhere (h : tables.IsSound) {row : Row} (hmem : row ∈ tables.rows)
    {text : String} (hne : text ≠ row.path) (item : Item) :
    ∃ tables', tables.rename row text item = .ok tables' ∧ row ∉ tables'.rows := by
  have hcleared : ∀ other ∈ (tables.deleteSubtree row.root text).rows,
      other ∈ tables.rows ∧ (other.active = true → other.root = row.root → other.path ≠ text) := by
    intro other hother
    obtain ⟨hold, hout⟩ := List.mem_filter.1 hother
    refine ⟨hold, fun hactive hroot hpath => ?_⟩
    simp [isWithin, hactive, hroot, hpath] at hout
  unfold Tables.rename Tables.setPathAndContent
  simp only [if_neg hne]
  cases hfound : (tables.deleteSubtree row.root text).row? row.id with
  | none =>
    refine ⟨_, rfl, fun hthere => ?_⟩
    have hnot := List.find?_eq_none.1 hfound row hthere
    exact hnot (beq_self_eq_true _)
  | some found =>
    have hthere := List.mem_of_find?_eq_some hfound
    have hid : found.id = row.id := by simpa using List.find?_some hfound
    have hsame : found = row :=
      List.inj_on_of_nodup_map h.numbered (hcleared found hthere).1 hmem hid
    subst hsame
    have hreplaced := @replace_of_free (tables.deleteSubtree found.root text)
      { found with path := text, content := some (ItemFields.ofItem item).text }
      fun other hother hactive hroot hpath =>
        absurd hpath ((hcleared other hother).2 hactive hroot)
    refine ⟨_, hreplaced, fun hin => ?_⟩
    obtain ⟨old, -, heq⟩ := List.mem_map.1 hin
    by_cases hid : old.id = found.id
    · rw [if_pos hid] at heq
      exact hne (congrArg Row.path heq)
    · rw [if_neg hid] at heq
      exact hid (congrArg Row.id heq)

/-- An item is kept under the text that it has if its new name is its old one. -/
theorem RowAt.text_eq_iff {above : Path} {name newName : String} {row : Row}
    (hrow : tables.RowAt root (Path.spread (above ++ [name])) row)
    (hname : Path.separator ∉ newName.toList) :
    Path.format (above ++ [newName]) = row.path ↔ name = newName := by
  constructor
  · intro heq
    have hsplit := congrArg Path.splitText heq
    have hsegments : Path.splitText row.path = Path.spread (above ++ [name]) := hrow.path
    rw [Path.splitText_format_eq (by simp), hsegments, Path.spread_concat, Path.spread_concat,
      Path.splitText_of_undotted hname] at hsplit
    rw [← Path.format_splitText name, ← List.append_cancel_left hsplit]
    exact String.ofList_toList
  · intro heq
    rw [← heq, hrow.text, Path.format_spread]

/-- Nothing changes if an item is replaced by itself. -/
theorem IsSound.rename_same (h : tables.IsSound) {row : Row} {item : Item}
    (hrow : tables.RowAt root path row)
    (hcontent : row.content = some (ItemFields.ofItem item).text) :
    tables.rename row row.path item = .ok tables := by
  have hnew :
      { row with path := row.path, content := some (ItemFields.ofItem item).text } = row := by
    rw [← hcontent]
  have hreplaced := @replace_of_free tables row fun other hother hactive hroot hpath => by
    have hat : tables.RowAt root path other :=
      ⟨hother, hactive, hroot.trans hrow.root, by rw [← hrow.path, Row.segments, hpath]; rfl⟩
    rw [h.unique hat hrow]
  have hrows : tables.rows.map (fun r => if r.id = row.id then row else r) = tables.rows := by
    refine (List.map_congr_left fun r hr => ?_).trans (List.map_id _)
    by_cases hid : r.id = row.id
    · rw [if_pos hid, List.inj_on_of_nodup_map h.numbered hr hrow.mem hid]
      rfl
    · rw [if_neg hid]
      rfl
  unfold Tables.rename
  simp only [if_true, Tables.setPathAndContent, h.isNumbered.row?_of_mem hrow.mem, hnew, hreplaced, hrows]

/-- A row of an item may get any place below a branch, over what stands there. -/
theorem IsSound.rename_below (h : tables.IsSound) {above : Path} {name : String} {row : Row}
    (hrow : tables.RowAt root path row) (hkind : row.kind = .item) (item : Item)
    (hlegal : ∀ segment ∈ above ++ [name], Path.IsLegal segment ∧ '\x00' ∉ segment.toList)
    (hunder : (tables.view root).IsBranchAt above) :
    ∃ tables', tables.rename row (Path.format (above ++ [name])) item = .ok tables' ∧
      tables'.IsSound := by
  have hplain := Path.plain_of_legal hlegal
  have hnew : Path.splitText (Path.format (above ++ [name])) = above ++ [name] :=
    hplain.splitText_format (by simp)
  unfold Tables.rename
  by_cases hsame : Path.format (above ++ [name]) = row.path
  · have hpath : path = above ++ [name] := by
      rw [← hrow.path, Row.segments, ← hsame, hnew]
    subst hpath
    obtain ⟨tables', hok, hbecomes⟩ :=
      h.setPathAndContent hrow hkind item hlegal hunder (Node.graft_path ..)
    exact ⟨tables', by rw [if_pos hsame, hok], hbecomes.sound⟩
  · have hcleared := @IsSound.deleteSubtree tables root h (above ++ [name]) (by simp) hplain
    rw [if_neg hsame, hrow.root]
    by_cases hin : above ++ [name] <+: path
    · have hgone :
          (tables.deleteSubtree root (Path.format (above ++ [name]))).row? row.id = none := by
        refine List.find?_eq_none.2 fun other hother hid => ?_
        have hmem := (List.mem_filter.1 hother).1
        have heq := List.inj_on_of_nodup_map h.numbered hmem hrow.mem (eq_of_beq hid)
        subst heq
        have hat := (rowAt_deleteSubtree (by simp) hplain root path other).1
          ⟨hother, hrow.active, hrow.root, hrow.path⟩
        exact hat.2 ⟨rfl, hin⟩
      exact ⟨_, by simp only [Tables.setPathAndContent, hgone], hcleared.sound⟩
    · have hat : (tables.deleteSubtree root (Path.format (above ++ [name]))).RowAt root path row :=
        (rowAt_deleteSubtree (by simp) hplain _ _ _).2 ⟨hrow, fun hinside => hin hinside.2⟩
      have hunder' : ((tables.view root).prune (above ++ [name])).IsBranchAt above :=
        hunder.prune (Path.not_prefix_above above name)
      have hfree : ((tables.view root).prune (above ++ [name])).prune path (above ++ [name]) =
          none := by
        by_cases hbegins : path <+: above ++ [name]
        · exact if_pos hbegins
        · exact (Node.graft_elsewhere hbegins ..).trans (Node.graft_path ..)
      obtain ⟨tables', hok, hbecomes⟩ := hcleared.sound.setPathAndContent hat hkind item hlegal
        (hcleared.view_root.symm ▸ hunder') (hcleared.view_root.symm ▸ hfree)
      exact ⟨tables', hok, hbecomes.sound⟩

/-- An item is never at the empty path. -/
theorem ne_nil_of_item {item : Item} (hitem : tables.view root path.spread = some (.leaf item)) :
    path ≠ [] := by
  intro hnil
  rw [hnil, Path.spread_nil, view_nil] at hitem
  split at hitem
  · cases hitem
  · cases hitem

/-- An item that is seen has a row that keeps it. -/
theorem IsSound.rowAt_of_item (h : tables.IsSound) {item : Item} (hne : path ≠ [])
    (hitem : tables.view root path = some (.leaf item)) :
    ∃ row, tables.RowAt root path row ∧ row.kind = .item ∧
      row.content = some (ItemFields.ofItem item).text := by
  obtain ⟨row, hrow⟩ := h.rowAt_of_view hne (by rw [hitem]; rfl)
  refine ⟨row, hrow, ?_⟩
  rcases h.kept hrow with ⟨hkind, -⟩ | ⟨hkind, kept, hcontent⟩
  · rw [h.view_group hrow hkind] at hitem
    cases hitem
  · rw [h.view_item hrow hkind hcontent] at hitem
    cases hitem
    exact ⟨hkind, hcontent⟩

/-- An update that finds its item changes a row, unless it puts there what is there. -/
theorem IsSound.updateItem_met_iff (h : tables.IsSound) {above : Path} {name : String}
    {old item : Item} (hold : tables.view root (Path.spread (above ++ [name])) = some (.leaf old))
    (hname : Path.IsLegal (Path.nameOfTitle item.title)) :
    tables.settled (tables.updateItem root (above ++ [name]) item) = tables ↔
      name = Path.nameOfTitle item.title ∧ old = item := by
  obtain ⟨row, hrow, hkind, hcontent⟩ := h.rowAt_of_item (Path.spread_ne_nil (by simp)) hold
  have htext := hrow.text_eq_iff hname.undotted
  rw [h.updateItem_of_text hrow hkind, Path.checkSegment_eq_ok_iff.2 hname]
  simp only
  by_cases hsame : name = Path.nameOfTitle item.title
  · rw [htext.2 hsame]
    by_cases hitem : old = item
    · subst hitem
      rw [h.rename_same hrow hcontent]
      exact iff_of_true rfl ⟨hsame, rfl⟩
    · refine iff_of_false ?_ fun heq => hitem heq.2
      have hpath : Path.spread (above ++ [name]) = above.spread ++ [name] := by
        rw [Path.spread_concat, Path.splitText_of_undotted (hsame ▸ hname.undotted)]
      have hunder := h.branch_spread (h.isSome_of_rowAt hrow)
      rw [hpath] at hrow hold
      obtain ⟨tables', hok, hbecomes⟩ :=
        h.setPathAndContent hrow hkind item (h.legal hrow) hunder (Node.graft_path ..)
      have hrename : tables.rename row row.path item = .ok tables' := by
        rw [Tables.rename, if_pos rfl, hrow.text, hok]
      rw [hrename]
      refine hbecomes.ne (p := above.spread ++ [name]) ?_
      rw [Node.graft_path, hold, Node.view_nil]
      exact fun heq => hitem (Node.Face.leaf.inj (Option.some.inj heq)).symm
  · refine iff_of_false ?_ fun heq => hsame heq.1
    obtain ⟨tables', hok, hgone⟩ := h.rename_elsewhere hrow.mem (mt htext.1 hsame) item
    rw [hok]
    intro heq
    change tables' = tables at heq
    rw [heq] at hgone
    exact hgone hrow.mem

/-- An update leaves tables sound. -/
theorem IsSound.updateItem_sound (h : tables.IsSound) (root : String) (path : Path) {item : Item}
    (htitle : '\x00' ∉ item.title.toList) :
    (tables.settled (tables.updateItem root path item)).IsSound := by
  by_cases hitem : (tables.view root).IsItemAt path.spread
  · obtain ⟨old, hold⟩ := hitem
    have hne := ne_nil_of_item hold
    obtain ⟨above, name, rfl⟩ := Path.exists_above hne
    obtain ⟨row, hrow, hkind, -⟩ := h.rowAt_of_item (Path.spread_ne_nil hne) hold
    rw [h.updateItem_of_text hrow hkind]
    cases hcheck : Path.checkSegment (Path.nameOfTitle item.title) with
    | error fault => exact h
    | ok u =>
      have hname := Path.checkSegment_eq_ok_iff.1 hcheck
      have hunder := h.branch_spread (h.isSome_of_rowAt hrow)
      have hlegal : ∀ segment ∈ Path.spread above ++ [Path.nameOfTitle item.title],
          Path.IsLegal segment ∧ '\x00' ∉ segment.toList := by
        intro segment hs
        rcases List.mem_append.1 hs with hs | hs
        · exact h.legal_of_seen hunder.isSome segment hs
        · rw [List.mem_singleton.1 hs]
          exact ⟨hname, Path.unended_nameOfTitle htitle⟩
      obtain ⟨tables', hok, hsound⟩ := h.rename_below hrow hkind item hlegal hunder
      rw [← Path.splitText_of_undotted hname.undotted, ← Path.spread_concat, Path.format_spread]
        at hok
      simp only [hok, liftBroken, settled_ok]
      exact hsound
  · rw [h.updateItem_elsewhere_text hitem]
    exact h

/-! Moves. -/

/-- A move finds its node and a branch to bring it to, which is not told to lie in the node, and
nothing is there under the name that the node brings along. -/
structure Lands (seen : Node.View) (above : Path) (name : String) (dest : Path) : Prop where
  found : (seen (Path.spread (above ++ [name]))).isSome
  under : seen.IsBranchAt (Path.spread dest)
  outside : ¬ above ++ [name] <+: dest
  free : seen (Path.spread (dest ++ [name])) = none

variable {above dest : Path} {name : String}

/-- A move that does not land changes nothing. -/
theorem IsSound.move_elsewhere (h : tables.IsSound)
    (hnot : ¬ Lands (tables.view root) above name dest) :
    tables.settled (tables.move root (above ++ [name]) dest) = tables := by
  unfold Tables.move
  by_cases hroot : root ∈ tables.roots
  · simp only [requireRoot_of_mem hroot, bind, Except.bind, List.getLast?_concat]
    rcases @IsSound.lookup_text tables (above ++ [name]) h root (by simp) with
      ⟨-, hlookup⟩ | ⟨row, read, hrow, -, -, hlookup⟩
    · simp only [hlookup, liftMishap, settled_error]
    · simp only [hlookup, liftMishap]
      by_cases hunder : (tables.view root).IsBranchAt dest.spread
      · rw [h.placeAt_text_branch hunder]
        simp only [Tables.moveUnder]
        by_cases hin : above ++ [name] <+: dest
        · rw [if_pos (List.isPrefixOf_iff_prefix.2 hin), settled_error]
        · rw [if_neg (mt List.isPrefixOf_iff_prefix.1 hin)]
          by_cases hsame : Path.format (dest ++ [name]) = Path.format (above ++ [name])
          · rw [if_pos hsame, settled_ok]
          · rw [if_neg hsame]
            rcases @IsSound.lookup_text tables (dest ++ [name]) h root (by simp) with
              ⟨hfree, -⟩ | ⟨other, read', -, -, -, hlookup'⟩
            · exact absurd ⟨h.isSome_of_rowAt hrow, hunder, hin, hfree⟩ hnot
            · simp only [bind, Except.bind, hlookup', liftMishap, settled_error]
      · rcases h.placeAt_text_not_branch hroot hunder with hplace | hplace <;>
        · rw [hplace]
          rfl
  · simp only [requireRoot_of_not_mem hroot, bind, Except.bind, settled_error]

/-- The names of the place where a node lands are good names. -/
theorem IsSound.legal_landing (h : tables.IsSound)
    (hlands : Lands (tables.view root) above name dest) :
    ∀ segment ∈ Path.spread (dest ++ [name]), Path.IsLegal segment ∧ '\x00' ∉ segment.toList := by
  intro segment hs
  rw [Path.spread_concat] at hs
  rcases List.mem_append.1 hs with hs | hs
  · exact h.legal_of_seen hlands.under.isSome segment hs
  · refine h.legal_of_seen hlands.found segment ?_
    rw [Path.spread_concat]
    exact List.mem_append_right _ hs

/-- The rows of the subtree meet no taken path on their way to where the node lands. -/
theorem IsSound.moveSubtree_landing (h : tables.IsSound)
    (hlands : Lands (tables.view root) above name dest) :
    tables.moveSubtree root (Path.format (Path.spread (above ++ [name])))
        (Path.format (Path.spread (dest ++ [name]))) =
      .ok (tables.withMoved root (Path.spread (above ++ [name])) (Path.spread (dest ++ [name]))) :=
  h.moveRows_subtree (Path.spread_ne_nil (by simp)) (h.plain_of_seen hlands.found)
    (Path.spread_ne_nil (by simp)) (fun segment hs => (h.legal_landing hlands segment hs).1)
    hlands.free

/-- A move that lands takes the subtree along, to where its text leads. -/
theorem IsSound.move_met (h : tables.IsSound)
    (hlands : Lands (tables.view root) above name dest) :
    tables.move root (above ++ [name]) dest =
      .ok (tables.withMoved root (Path.spread (above ++ [name])) (Path.spread (dest ++ [name])))
    := by
  have hroot := h.root_of_view hlands.found
  have hmoved := h.moveSubtree_landing hlands
  have hsame : Path.format (dest ++ [name]) ≠ Path.format (above ++ [name]) := by
    intro heq
    have hsplit := congrArg Path.splitText heq
    rw [Path.splitText_format_eq (by simp), Path.splitText_format_eq (by simp)] at hsplit
    have hfound := hlands.found
    rw [← hsplit, hlands.free] at hfound
    cases hfound
  rw [Path.format_spread, Path.format_spread] at hmoved
  have hsrc : ∃ read, tables.lookup root (Path.format (above ++ [name])) = .ok (some read) := by
    rcases @IsSound.lookup_text tables (above ++ [name]) h root (by simp) with
      ⟨hnone, -⟩ | ⟨-, read, -, -, -, hlookup⟩
    · have hfound := hlands.found
      rw [hnone] at hfound
      cases hfound
    · exact ⟨read, hlookup⟩
  have hdest : tables.lookup root (Path.format (dest ++ [name])) = .ok none := by
    rcases @IsSound.lookup_text tables (dest ++ [name]) h root (by simp) with
      ⟨-, hlookup⟩ | ⟨row, -, hrow, -⟩
    · exact hlookup
    · exact absurd hrow (h.not_rowAt hlands.free row)
  obtain ⟨read, hsrc⟩ := hsrc
  unfold Tables.move Tables.moveUnder
  simp only [requireRoot_of_mem hroot, bind, Except.bind, List.getLast?_concat, hsrc, liftMishap,
    h.placeAt_text_branch hlands.under, if_neg (mt List.isPrefixOf_iff_prefix.1 hlands.outside),
    if_neg hsame, hdest, hmoved, liftBroken]

/-- A subtree that is moved is no longer where it was. -/
theorem IsSound.withMoved_ne (h : tables.IsSound)
    (hlands : Lands (tables.view root) above name dest) :
    tables.withMoved root (Path.spread (above ++ [name])) (Path.spread (dest ++ [name])) ≠
      tables := by
  intro heq
  obtain ⟨row, hrow⟩ := h.rowAt_of_view (Path.spread_ne_nil (by simp)) hlands.found
  have hat := (@IsSound.rowAt_shifted tables root h _ (Path.spread (dest ++ [name]))
    (Path.spread_ne_nil (by simp)) (h.plain_of_seen hlands.found) (Path.spread_ne_nil (by simp))
    (fun segment hs => (h.legal_landing hlands segment hs).1) root _ _).2
    (.inr ⟨rfl, [], (List.append_nil _).symm, row, by rwa [List.append_nil], rfl⟩)
  rw [heq] at hat
  exact h.not_rowAt hlands.free _ hat

/-- A move under a name without dots leaves tables sound, unless it goes below itself. -/
theorem IsSound.move_sound (h : tables.IsSound) (hname : Path.separator ∉ name.toList)
    (houtside : ¬ Path.spread (above ++ [name]) <+: Path.spread dest) :
    (tables.settled (tables.move root (above ++ [name]) dest)).IsSound := by
  by_cases hlands : Lands (tables.view root) above name dest
  · have hlanding : Path.spread (dest ++ [name]) = Path.spread dest ++ [name] := by
      rw [Path.spread_concat, Path.splitText_of_undotted hname]
    have hlegal := h.legal_landing hlands
    have hfree := hlands.free
    have hmoved := h.moveSubtree_landing hlands
    rw [hlanding] at hlegal hfree hmoved
    obtain ⟨tables', hok, hbecomes⟩ := h.moveSubtree (Path.spread_ne_nil (by simp))
      (h.plain_of_seen hlands.found) hlegal houtside hlands.under hfree
    rw [h.move_met hlands, hlanding, settled_ok, ← Except.ok.inj (hok.symm.trans hmoved)]
    exact hbecomes.sound
  · rw [h.move_elsewhere hlands]
    exact h

end Tables

/-! Any command. -/

namespace Graph

/-- A command other than those that create meets what it is told to change, where the texts of
its paths lead. -/
def View.Meets (seen : View) : Command → Prop
  | .updateItem root path title description state =>
    ∃ above name old, path = above ++ [name] ∧ seen root path.spread = some (.leaf old) ∧
      Path.IsLegal (Path.nameOfTitle title) ∧
      ¬ (name = Path.nameOfTitle title ∧ old = ⟨title, description, state⟩)
  | .toggleItem root path => (seen root).IsItemAt path.spread
  | .move root src dest =>
    ∃ above name, src = above ++ [name] ∧ Tables.Lands (seen root) above name dest
  | .archive root path => path ≠ [] ∧ (seen root path.spread).isSome
  | _ => False

end Graph

/-- A move can take a node to where no section stands: it brings along a name with dots, or it
goes below itself in another spelling. -/
def CommandOf.Strays : Command → Prop
  | .move _ src dest =>
    (∃ name ∈ src.getLast?, Path.separator ∈ name.toList) ∨ Path.spread src <+: Path.spread dest
  | _ => False

/-- A command creates nothing. -/
def CommandKind.isLater : CommandKind → Bool
  | .createRoot | .createSection | .createItem => false
  | _ => true

namespace Tables

variable {tables : Tables}

/-- A command that creates nothing changes tables exactly if it meets something. -/
theorem IsSound.settled_eq_iff (h : tables.IsSound) {command : Command}
    (hlater : command.kind.isLater = true) :
    tables.settled (tables.execute command) = tables ↔ ¬ tables.view.Meets command := by
  cases command with
  | createRoot root => cases hlater
  | createSection root path => cases hlater
  | createItem root path title description state => cases hlater
  | updateItem root path title description state =>
    by_cases hitem : (tables.view root).IsItemAt path.spread
    · obtain ⟨old, hold⟩ := hitem
      obtain ⟨above, name, rfl⟩ := Path.exists_above (ne_nil_of_item hold)
      by_cases hname : Path.IsLegal (Path.nameOfTitle title)
      · refine (h.updateItem_met_iff hold hname).trans ⟨fun hsame hmeets => ?_, fun hnot => ?_⟩
        · obtain ⟨above', name', old', hpath, hold', -, hchange⟩ := hmeets
          obtain ⟨rfl, hlast⟩ := List.append_inj' hpath rfl
          obtain rfl := List.singleton_inj.1 hlast
          rw [hold] at hold'
          cases hold'
          exact hchange hsame
        · apply Decidable.byContradiction
          exact fun hchange => hnot ⟨above, name, old, rfl, hold, hname, hchange⟩
      · refine iff_of_true ?_ fun hmeets => ?_
        · obtain ⟨row, hrow, hkind, -⟩ := h.rowAt_of_item (Path.spread_ne_nil (by simp)) hold
          change tables.settled (tables.updateItem root (above ++ [name]) _) = tables
          rw [h.updateItem_of_text hrow hkind]
          cases hcheck : Path.checkSegment (Path.nameOfTitle title) with
          | error fault => rfl
          | ok u => exact absurd (Path.checkSegment_eq_ok_iff.1 hcheck) hname
        · obtain ⟨-, -, -, -, -, hlegal, -⟩ := hmeets
          exact hname hlegal
    · refine iff_of_true (h.updateItem_elsewhere_text hitem _) fun hmeets => ?_
      obtain ⟨-, -, old, -, hold, -⟩ := hmeets
      exact hitem ⟨old, hold⟩
  | toggleItem root path =>
    by_cases hmeets : tables.view.Meets (.toggleItem root path)
    · exact iff_of_false (h.toggleItem_met hmeets).2 (not_not_intro hmeets)
    · exact iff_of_true (h.toggleItem_elsewhere hmeets) hmeets
  | move root src dest =>
    by_cases hne : src = []
    · subst hne
      refine iff_of_true ?_ fun hmeets => ?_
      · change tables.settled (tables.move root [] dest) = tables
        unfold Tables.move
        by_cases hroot : root ∈ tables.roots
        · simp only [requireRoot_of_mem hroot, bind, Except.bind]
          rfl
        · simp only [requireRoot_of_not_mem hroot, bind, Except.bind, settled_error]
      · obtain ⟨above, name, hpath, -⟩ := hmeets
        simp at hpath
    · obtain ⟨above, name, rfl⟩ := Path.exists_above hne
      by_cases hlands : Lands (tables.view root) above name dest
      · refine iff_of_false ?_ (not_not_intro ⟨above, name, rfl, hlands⟩)
        change tables.settled (tables.move root (above ++ [name]) dest) ≠ tables
        rw [h.move_met hlands]
        exact h.withMoved_ne hlands
      · refine iff_of_true (h.move_elsewhere hlands) fun hmeets => ?_
        obtain ⟨above', name', hpath, hlands'⟩ := hmeets
        obtain ⟨rfl, hlast⟩ := List.append_inj' hpath rfl
        obtain rfl := List.singleton_inj.1 hlast
        exact hlands hlands'
  | archive root path =>
    by_cases hmeets : tables.view.Meets (.archive root path)
    · exact iff_of_false (h.archive_met hmeets.1 hmeets.2).2 (not_not_intro hmeets)
    · exact iff_of_true (h.archive_elsewhere hmeets) hmeets

/-- A command that creates nothing and does not stray leaves tables sound. -/
theorem IsSound.execute_later (h : tables.IsSound) {command : Command}
    (hlater : command.kind.isLater = true) (hstays : ¬ command.Strays)
    (htitle : ∀ root path title description state,
      command = .updateItem root path title description state → '\x00' ∉ title.toList) :
    (tables.settled (tables.execute command)).IsSound := by
  by_cases hmeets : tables.view.Meets command
  · cases command with
    | createRoot root => cases hlater
    | createSection root path => cases hlater
    | createItem root path title description state => cases hlater
    | updateItem root path title description state =>
      exact h.updateItem_sound root path (htitle _ _ _ _ _ rfl)
    | toggleItem root path => exact (h.toggleItem_met hmeets).1
    | move root src dest =>
      obtain ⟨above, name, rfl, -⟩ := hmeets
      refine h.move_sound (fun hdot => hstays (.inl ⟨name, ?_, hdot⟩)) fun hin => hstays (.inr hin)
      exact List.getLast?_concat
    | archive root path => exact (h.archive_met hmeets.1 hmeets.2).1
  · rw [(h.settled_eq_iff hlater).2 hmeets]
    exact h

end Tables

namespace TableStore

/-- A run leaves a writable store writable. -/
theorem isReadOnly_run {store : TableStore} (h : store.isReadOnly = false)
    (commands : List Command) : (store.run commands).isReadOnly = false := by
  induction commands generalizing store with
  | nil => exact h
  | cons command rest ih => exact ih (execute_writable h command).2.2

/-- **Rows change where a text leads to them.**  After any plain commands on empty tables, a
command that creates nothing leaves all rows as they are exactly if it does not meet, under the
texts of its paths, what it is told to change; it is the same whether the names in its paths hold
dots or not.  If it is no move that strays, the rows are a tree afterwards as well. -/
theorem unchanged_iff_missed (start : TableStore) (hstart : start.tables = .empty)
    (hwritable : start.isReadOnly = false) (commands : List Command)
    (hplain : ∀ command ∈ commands, command.IsPlain) (command : Command)
    (hlater : command.kind.isLater = true) :
    let before := (start.run commands).tables
    let after := ((start.run commands).execute command).1.tables
    (after = before ↔ ¬ before.view.Meets command) ∧
    (¬ command.Strays → (∀ root path title description state,
        command = .updateItem root path title description state → '\x00' ∉ title.toList) →
      after.IsTree) := by
  intro before after
  have hsound : before.IsSound := isSound_run (hstart ▸ Tables.isSound_empty) hplain
  have hafter : after = before.settled (before.execute command) :=
    (execute_writable (isReadOnly_run hwritable commands) command).1
  rw [hafter]
  exact ⟨hsound.settled_eq_iff hlater,
    fun hstays htitle => (hsound.execute_later hlater hstays htitle).isTree⟩

/-- One name with a dot leads to a section in a section, and archives it. -/
theorem unchanged_iff_missed_archived :
    let before := (run ⟨.empty, none, none⟩
      [.createRoot "r", .createSection "r" ["a"], .createSection "r" ["a", "b"]])
    let after := (before.execute (.archive "r" ["a.b"])).1.tables
    after ≠ before.tables ∧ after.IsTree ∧
      (before.execute (.archive "r" ["a.", "b"])).1.tables = before.tables := by
  intro before after
  have hmet := unchanged_iff_missed ⟨.empty, none, none⟩ rfl rfl
    [.createRoot "r", .createSection "r" ["a"], .createSection "r" ["a", "b"]] (by decide)
    (.archive "r" ["a.b"]) rfl
  have hmissed := unchanged_iff_missed ⟨.empty, none, none⟩ rfl rfl
    [.createRoot "r", .createSection "r" ["a"], .createSection "r" ["a", "b"]] (by decide)
    (.archive "r" ["a.", "b"]) rfl
  have hthere : Graph.View.Meets before.tables.view (.archive "r" ["a.b"]) :=
    ⟨by decide, by decide +kernel⟩
  have hnowhere : ¬ Graph.View.Meets before.tables.view (.archive "r" ["a.", "b"]) := fun hmeets =>
    absurd hmeets.2 (by decide +kernel)
  refine ⟨fun hsame => hmet.1.1 hsame hthere, hmet.2 id ?_, hmissed.1.2 hnowhere⟩
  intro root path title description state heq
  cases heq

/-- A section is moved by a name with a dot, to where no row stands above it. -/
theorem dotted_move_strays :
    let before := (run ⟨.empty, none, none⟩
      [.createRoot "r", .createSection "r" ["a"], .createSection "r" ["a", "b"],
       .createSection "r" ["c"]])
    let after := (before.execute (.move "r" ["a.b"] ["c"])).1.tables
    after.rows ≠ before.tables.rows ∧ (after.find? "r" "c.a.b").isSome = true ∧
      after.find? "r" "c.a" = none := by
  decide +kernel

end TableStore

end TaskTree
