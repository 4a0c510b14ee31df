import Mathlib.Data.List.Find
import TaskTree.Proofs.Tables.Writes

/-!
# The archive

Archived rows stay in the table for good.  What is written only edits active rows or adds new ones
(`Edits`), so whatever commands come, the archive is never touched and only grows.

Nor does a command look at it.  Each one does to tables without their archive what it does to the
tables themselves, as far as active rows go (`IsNumbered.execute_withoutArchive`).  So two stores
that differ in what is archived give the same results and answers for ever (`archive_hidden`).
-/

namespace TaskTree

namespace Tables

variable {tables after : Tables} {root : String} {path : Path}

/-- The rows that are archived. -/
def archived (tables : Tables) : List Row :=
  tables.rows.filter fun row => !row.active

/-- Tables whose archived rows are taken away. -/
def withoutArchive (tables : Tables) : Tables :=
  { tables with rows := tables.rows.filter Row.active }

@[simp] theorem roots_withoutArchive (tables : Tables) :
    tables.withoutArchive.roots = tables.roots := rfl

@[simp] theorem withoutArchive_withoutArchive (tables : Tables) :
    tables.withoutArchive.withoutArchive = tables.withoutArchive := by
  simp [withoutArchive]

/-- A row that is archived belongs to no subtree. -/
theorem isWithin_of_archived {text : String} {row : Row} (h : row.active = false) :
    isWithin root text row = false := by
  simp [isWithin, h]

/-! What writes do to archived rows. -/

/-- Active rows are edited or dropped, and new rows are added behind them.  A table with new rows
has used up their numbers. -/
def Edits (tables after : Tables) : Prop :=
  ∃ (edit : Row → Option Row) (new : List Row),
    after.rows = tables.rows.filterMap edit ++ new ∧
      (∀ row ∈ tables.rows, row.active = false → edit row = some row) ∧
      tables.nextId ≤ after.nextId ∧ (after.nextId = tables.nextId → new = [])

/-- Tables that stay as they are are edited by nothing. -/
theorem edits_refl (tables : Tables) : Edits tables tables :=
  ⟨some, [], by simp, fun _ _ _ => rfl, Nat.le_refl _, fun _ => rfl⟩

theorem Edits.trans {middle : Tables} (h : Edits tables middle) (h' : Edits middle after) :
    Edits tables after := by
  obtain ⟨edit, new, hrows, hkeep, hnext, hnew⟩ := h
  obtain ⟨edit', new', hrows', hkeep', hnext', hnew'⟩ := h'
  refine ⟨fun row => (edit row).bind edit', new.filterMap edit' ++ new', ?_, ?_,
    Nat.le_trans hnext hnext', ?_⟩
  · rw [hrows', hrows, List.filterMap_append, List.filterMap_filterMap, List.append_assoc]
  · intro row hrow harchived
    have hstays := hkeep row hrow harchived
    have hmiddle : row ∈ middle.rows := by
      rw [hrows]
      exact List.mem_append_left _ (List.mem_filterMap.2 ⟨row, hrow, hstays⟩)
    simp only [hstays, Option.bind_some]
    exact hkeep' row hmiddle harchived
  · intro hsame
    rw [hnew (by omega), hnew' (by omega)]
    rfl

/-- Each write edits active rows only.  Which row is changed is told by its number, and that is
not the number of an archived row. -/
theorem Write.edits (hwrite : tables.Write after) (h : tables.IsNumbered) :
    Edits tables after := by
  cases hwrite with
  | root hok =>
    obtain rfl := addRoot_eq_ok hok
    exact edits_refl tables
  | row hkept hok =>
    obtain ⟨rfl, -⟩ := insert_eq_ok hok
    refine ⟨some, _, by rw [List.filterMap_some], fun _ _ _ => rfl, Nat.le_succ _, fun hsame => ?_⟩
    exact absurd hsame (Nat.succ_ne_self _)
  | @change old new _ hok hmem hactive hid hstill hkept =>
    obtain ⟨rfl, -⟩ := replace_eq_ok hok
    refine ⟨fun row => some (if row.id = new.id then new else row), [], ?_, ?_, Nat.le_refl _,
      fun _ => rfl⟩
    · rw [List.filterMap_eq_map', List.append_nil]
    · intro row hrow harchived
      have hother : row.id ≠ new.id := by
        intro hsame
        rw [h.eq_of_id hrow hmem (hsame.trans hid), hactive] at harchived
        cases harchived
      simp only [if_neg hother]
  | removal root text =>
    refine ⟨Option.guard fun row => !isWithin root text row, [], ?_, ?_, Nat.le_refl _, fun _ => rfl⟩
    · rw [List.filterMap_eq_filter, List.append_nil]
      rfl
    · intro row hrow harchived
      simp [Option.guard, isWithin_of_archived harchived]
  | archive root text =>
    refine ⟨fun row => some (if isWithin root text row then { row with active := false } else row),
      [], ?_, ?_, Nat.le_refl _, fun _ => rfl⟩
    · rw [List.filterMap_eq_map', List.append_nil]
      rfl
    · intro row hrow harchived
      simp [isWithin_of_archived harchived]

/-- Any number of writes only edit and drop active rows, and add new ones. -/
theorem Writes.edits (hwrites : Writes tables after) (h : tables.IsNumbered) :
    Edits tables after := by
  induction hwrites with
  | refl => exact edits_refl tables
  | tail hbefore hwrite ih => exact ih.trans (hwrite.edits (Writes.keep hbefore Write.isNumbered h))

/-- What is archived stays so, as it is. -/
theorem Edits.archived_sublist (h : Edits tables after) :
    tables.archived.Sublist after.archived := by
  obtain ⟨edit, new, hrows, hkeep, -, -⟩ := h
  have hstays : ∀ row ∈ tables.archived, edit row = some row := by
    intro row hrow
    obtain ⟨hmem, harchived⟩ := List.mem_filter.1 hrow
    exact hkeep row hmem (by simpa using harchived)
  have hfixed : tables.archived.filterMap edit = tables.archived :=
    (List.filterMap_congr hstays).trans List.filterMap_some
  have hrest : tables.archived.Sublist after.rows := by
    rw [hrows, ← hfixed]
    exact (List.filter_sublist.filterMap edit).trans (List.sublist_append_left ..)
  have htwice : tables.archived.filter (fun row => !row.active) = tables.archived := by
    simp [archived]
  rw [← htwice]
  exact hrest.filter _

/-- Edits do not make more rows active. -/
theorem length_active_filterMap_le {edit : Row → Option Row} {rows : List Row}
    (hkeep : ∀ row ∈ rows, row.active = false → edit row = some row) :
    ((rows.filterMap edit).filter Row.active).length ≤ (rows.filter Row.active).length := by
  induction rows with
  | nil => exact Nat.le_refl _
  | cons row rest ih =>
    have ih := ih fun other hother => hkeep other (List.mem_cons_of_mem _ hother)
    cases hactive : row.active with
    | false =>
      rw [List.filterMap_cons_some (hkeep row (List.mem_cons_self ..) hactive)]
      simpa [List.filter_cons, hactive] using ih
    | true =>
      rw [List.filter_cons_of_pos hactive, List.length_cons]
      cases hedit : edit row with
      | none =>
        rw [List.filterMap_cons_none hedit]
        omega
      | some row' =>
        rw [List.filterMap_cons_some hedit, List.filter_cons]
        split
        · exact Nat.succ_le_succ ih
        · omega

/-- Edits that leave the active rows as they were leave all rows so. -/
theorem filterMap_eq_self {edit : Row → Option Row} {rows : List Row}
    (hkeep : ∀ row ∈ rows, row.active = false → edit row = some row)
    (hsame : (rows.filterMap edit).filter Row.active = rows.filter Row.active) :
    rows.filterMap edit = rows := by
  induction rows with
  | nil => rfl
  | cons row rest ih =>
    have hrest : ∀ other ∈ rest, other.active = false → edit other = some other :=
      fun other hother => hkeep other (List.mem_cons_of_mem _ hother)
    cases hactive : row.active with
    | false =>
      have hedit := hkeep row (List.mem_cons_self ..) hactive
      rw [List.filterMap_cons_some hedit] at hsame ⊢
      rw [ih hrest (by simpa [List.filter_cons, hactive] using hsame)]
    | true =>
      rw [List.filter_cons_of_pos hactive] at hsame
      have hlength := congrArg List.length hsame
      have hle := length_active_filterMap_le hrest
      rw [List.length_cons] at hlength
      cases hedit : edit row with
      | none =>
        rw [List.filterMap_cons_none hedit] at hlength
        omega
      | some row' =>
        rw [List.filterMap_cons_some hedit] at hsame hlength ⊢
        cases hactive' : row'.active with
        | false =>
          rw [List.filter_cons_of_neg (by simp [hactive'])] at hlength
          omega
        | true =>
          rw [List.filter_cons_of_pos hactive'] at hsame
          obtain ⟨rfl, hbehind⟩ := List.cons.inj hsame
          rw [ih hrest hbehind]

/-- Edits that cannot be told from the active rows are none. -/
theorem Edits.eq_of_withoutArchive (h : Edits tables after)
    (hsame : after.withoutArchive = tables.withoutArchive) : after = tables := by
  obtain ⟨edit, new, hrows, hkeep, -, hnew⟩ := h
  obtain ⟨roots', rows', nextId'⟩ := after
  obtain ⟨roots, rows, nextId⟩ := tables
  simp only [withoutArchive, Tables.mk.injEq] at hsame hrows hkeep hnew ⊢
  obtain ⟨hroots, hactive, hnext⟩ := hsame
  rw [hnew hnext, List.append_nil] at hrows
  rw [hrows] at hactive
  exact ⟨hroots, hrows.trans (filterMap_eq_self hkeep hactive), hnext⟩

/-! What is looked at. -/

/-- A row that stands at a path is active. -/
theorem active_and_standsAt (root text : String) (row : Row) :
    (row.active && standsAt root text row) = standsAt root text row := by
  unfold standsAt
  cases row.active <;> rfl

/-- A row within a subtree is active. -/
theorem active_and_isWithin (root text : String) (row : Row) :
    (row.active && isWithin root text row) = isWithin root text row := by
  unfold isWithin
  cases row.active <;> rfl

@[simp] theorem requireRoot_withoutArchive (tables : Tables) (root : String) :
    tables.withoutArchive.requireRoot root = tables.requireRoot root := rfl

@[simp] theorem find?_withoutArchive (tables : Tables) (root text : String) :
    tables.withoutArchive.find? root text = tables.find? root text := by
  simp only [find?, withoutArchive, List.find?_filter, Bool.decide_and,
    Bool.decide_eq_true, active_and_standsAt]

@[simp] theorem lookup_withoutArchive (tables : Tables) (root text : String) :
    tables.withoutArchive.lookup root text = tables.lookup root text := by
  unfold lookup
  rw [find?_withoutArchive]

@[simp] theorem placeAt_withoutArchive (tables : Tables) (root : String) (path : Path) :
    tables.withoutArchive.placeAt root path = tables.placeAt root path := by
  unfold placeAt
  rw [lookup_withoutArchive]

@[simp] theorem isTaken_withoutArchive (tables : Tables) (root text : String) (id : Nat) :
    tables.withoutArchive.isTaken root text id = tables.isTaken root text id := by
  simp only [isTaken, withoutArchive, List.any_filter, ← Bool.and_assoc, active_and_standsAt]

@[simp] theorem subtree_withoutArchive (tables : Tables) (root text : String) :
    tables.withoutArchive.subtree root text = tables.subtree root text := by
  simp only [subtree, withoutArchive, List.filter_filter, Bool.and_comm _ (Row.active _),
    active_and_isWithin]

@[simp] theorem subtreeSize_withoutArchive (tables : Tables) (root text : String) :
    tables.withoutArchive.subtreeSize root text = tables.subtreeSize root text := by
  simp only [subtreeSize, withoutArchive, List.countP_filter, Bool.and_comm _ (Row.active _),
    active_and_isWithin]

@[simp] theorem rowsOf_withoutArchive (tables : Tables) (root : String) :
    tables.withoutArchive.rowsOf root = tables.rowsOf root := by
  simp only [rowsOf, withoutArchive, List.filter_filter, Bool.and_right_comm, Bool.and_self]

/-- Answers do not depend on the archive. -/
theorem get_withoutArchive (tables : Tables) (root : String) (path : Path) :
    tables.withoutArchive.get root path = tables.get root path := by
  unfold get graphOf list
  rw [rowsOf_withoutArchive]
  rfl

theorem roots?_withoutArchive (tables : Tables) :
    tables.withoutArchive.roots? = tables.roots? := rfl

/-! What is written, as far as active rows go. -/

/-- A root is added without the archive as with it. -/
theorem addRoot_withoutArchive (tables : Tables) (root : String) :
    tables.withoutArchive.addRoot root = (tables.addRoot root).map withoutArchive := by
  unfold addRoot
  change (if tables.hasRoot root then _ else _) = _
  split <;> rfl

/-- A row is inserted without the archive as with it. -/
theorem insert_withoutArchive (tables : Tables) (root text word : String)
    (content : Option String) :
    tables.withoutArchive.insert root text word content =
      (tables.insert root text word content).map withoutArchive := by
  unfold insert
  rw [find?_withoutArchive]
  split
  · rfl
  · split
    · rfl
    · change (if !tables.hasRoot root then _ else _) = _
      split
      · rfl
      · simp [withoutArchive, Except.map]

/-- A subtree is deleted without the archive as with it. -/
theorem deleteSubtree_withoutArchive (tables : Tables) (root text : String) :
    tables.withoutArchive.deleteSubtree root text =
      (tables.deleteSubtree root text).withoutArchive := by
  unfold deleteSubtree withoutArchive
  simp only [List.filter_filter, Bool.and_comm]

/-- As far as active rows go, a subtree that is archived is removed. -/
theorem withoutArchive_archiveSubtree (tables : Tables) (root text : String) :
    (tables.archiveSubtree root text).withoutArchive =
      (tables.deleteSubtree root text).withoutArchive := by
  have hrows : ∀ rows : List Row, (rows.map fun row =>
      if isWithin root text row then { row with active := false } else row).filter Row.active =
        (rows.filter fun row => !isWithin root text row).filter Row.active := by
    intro rows
    induction rows with
    | nil => rfl
    | cons row rest ih =>
      cases hwithin : isWithin root text row with
      | true => simpa [hwithin] using ih
      | false => simp [hwithin, List.filter_cons, ih]
  unfold withoutArchive
  rw [archiveSubtree, deleteSubtree, hrows]

/-- No archived row has this number. -/
def IsLive (tables : Tables) (id : Nat) : Prop :=
  ∀ row ∈ tables.rows, row.id = id → row.active = true

/-- The number of an active row is not that of an archived one. -/
theorem IsNumbered.isLive (h : tables.IsNumbered) {row : Row} (hmem : row ∈ tables.rows)
    (hactive : row.active = true) : tables.IsLive row.id := by
  intro other hother hid
  rw [h.eq_of_id hother hmem hid]
  exact hactive

/-- A live number finds its row without the archive. -/
theorem IsLive.row?_withoutArchive {id : Nat} (hlive : tables.IsLive id) :
    tables.withoutArchive.row? id = tables.row? id := by
  unfold row? withoutArchive
  rw [List.find?_filter]
  refine List.find?_congr fun row hrow => ?_
  by_cases hid : row.id = id
  · simp [hid, hlive row hrow hid]
  · simp [hid]

/-- A live row is replaced without the archive as with it. -/
theorem IsLive.replace {new : Row} (hlive : tables.IsLive new.id) (hactive : new.active = true) :
    tables.withoutArchive.replace new = (tables.replace new).map withoutArchive := by
  unfold Tables.replace
  rw [isTaken_withoutArchive]
  split
  · rfl
  · have hstill : ∀ row ∈ tables.rows,
        (Row.active ∘ fun r => if r.id = new.id then new else r) row = row.active := by
      intro row hrow
      rw [Function.comp_apply]
      split
      · next hid => rw [hactive, hlive row hrow hid]
      · rfl
    simp only [Except.map, withoutArchive, List.filter_map, List.filter_congr hstill]

/-- The row with a number that no archived row has is active. -/
theorem IsLive.active_of_row? {id : Nat} (hlive : tables.IsLive id) {row : Row}
    (hfound : tables.row? id = some row) : row.id = id ∧ row.active = true := by
  have hid : row.id = id := by simpa using List.find?_some hfound
  exact ⟨hid, hlive row (List.mem_of_find?_eq_some hfound) hid⟩

/-- A live row gets another content without the archive as with it. -/
theorem IsLive.setContent {id : Nat} (hlive : tables.IsLive id) (content : String) :
    tables.withoutArchive.setContent id content =
      (tables.setContent id content).map withoutArchive := by
  unfold Tables.setContent
  rw [hlive.row?_withoutArchive]
  cases hfound : tables.row? id with
  | none => rfl
  | some row =>
    obtain ⟨rfl, hactive⟩ := hlive.active_of_row? hfound
    exact IsLive.replace hlive hactive

/-- A live row gets another path and content without the archive as with it. -/
theorem IsLive.setPathAndContent {id : Nat} (hlive : tables.IsLive id) (text content : String) :
    tables.withoutArchive.setPathAndContent id text content =
      (tables.setPathAndContent id text content).map withoutArchive := by
  unfold Tables.setPathAndContent
  rw [hlive.row?_withoutArchive]
  cases hfound : tables.row? id with
  | none => rfl
  | some row =>
    obtain ⟨rfl, hactive⟩ := hlive.active_of_row? hfound
    exact IsLive.replace hlive hactive

/-- A number stays live when an active row is put in. -/
theorem IsLive.of_replace {id : Nat} {new : Row} (hlive : tables.IsLive id)
    (hok : tables.replace new = .ok after) (hactive : new.active = true) : after.IsLive id := by
  obtain ⟨rfl, -⟩ := replace_eq_ok hok
  intro row hrow hid
  obtain ⟨old, hold, rfl⟩ := List.mem_map.1 hrow
  by_cases hsame : old.id = new.id
  · rw [if_pos hsame]
    exact hactive
  · rw [if_neg hsame] at hid ⊢
    exact hlive old hold hid

/-- Live rows are moved without the archive as with it. -/
theorem moveRows_withoutArchive {src dest : String} {moving : List Row} {tables : Tables}
    (hmoving : ∀ row ∈ moving, row.active = true ∧ tables.IsLive row.id) :
    moveRows src dest moving tables.withoutArchive =
      (moveRows src dest moving tables).map withoutArchive := by
  induction moving generalizing tables with
  | nil => rfl
  | cons row rest ih =>
    obtain ⟨hactive, hlive⟩ := hmoving row (List.mem_cons_self ..)
    have hreplace : tables.withoutArchive.replace { row with path := movedPath src dest row.path } =
        (tables.replace { row with path := movedPath src dest row.path }).map withoutArchive :=
      IsLive.replace hlive hactive
    unfold moveRows
    rw [hreplace]
    cases hreplaced : tables.replace { row with path := movedPath src dest row.path } with
    | error rule => rfl
    | ok middle =>
      refine ih fun other hother => ?_
      obtain ⟨hstands, hother⟩ := hmoving other (List.mem_cons_of_mem _ hother)
      exact ⟨hstands, hother.of_replace hreplaced hactive⟩

/-! Commands. -/

/-- Two results are alike if what comes after one and the same thing is. -/
theorem bind_eq_map {ε α β : Type} {x : Except ε α} {f f' : α → Except ε β} {g : β → β}
    (h : ∀ a, x = .ok a → f a = (f' a).map g) : (x >>= f) = (x >>= f').map g := by
  cases x with
  | error e => rfl
  | ok a => exact h a rfl

/-- Two results that are alike are the same failure, or both are done. -/
theorem map_eq_map_cases {ε α β : Type} {x y : Except ε α} {f : α → β} (h : x.map f = y.map f) :
    (∃ e, x = .error e ∧ y = .error e) ∨ ∃ a b, x = .ok a ∧ y = .ok b ∧ f a = f b := by
  cases x with
  | error e =>
    cases y with
    | error e' => exact .inl ⟨e, rfl, congrArg Except.error (Except.error.inj h).symm⟩
    | ok b => cases h
  | ok a =>
    cases y with
    | error e => cases h
    | ok b => exact .inr ⟨a, b, rfl, rfl, Except.ok.inj h⟩

/-- A change of the tables goes through a broken rule. -/
theorem liftBroken_map (x : Except Constraint Tables) (f : Tables → Tables) :
    liftBroken (x.map f) = (liftBroken x).map f := by
  cases x <;> rfl

/-- A root is created without the archive as with it. -/
theorem createRoot_withoutArchive (tables : Tables) (root : String) :
    tables.withoutArchive.createRoot root = (tables.createRoot root).map withoutArchive := by
  unfold createRoot
  rw [addRoot_withoutArchive]
  split
  · rfl
  · cases tables.addRoot root <;> rfl

/-- A node is created without the archive as with it. -/
theorem create_withoutArchive (tables : Tables) (root : String) (path : Path) (kind : RowKind)
    (content : Option String) :
    tables.withoutArchive.create root path kind content =
      (tables.create root path kind content).map withoutArchive := by
  unfold create
  simp only [requireRoot_withoutArchive, placeAt_withoutArchive, deleteSubtree_withoutArchive,
    insert_withoutArchive, liftBroken_map]
  split
  · rfl
  · refine bind_eq_map fun _ _ => bind_eq_map fun _ _ => bind_eq_map fun place _ => ?_
    cases place <;> rfl

/-- An item is renamed without the archive as with it. -/
theorem IsNumbered.rename_withoutArchive (h : tables.IsNumbered) {row : Row}
    (hmem : row ∈ tables.rows) (hactive : row.active = true) (text : String) (item : Item) :
    tables.withoutArchive.rename row text item =
      (tables.rename row text item).map withoutArchive := by
  have hlive := h.isLive hmem hactive
  unfold rename
  simp only
  split
  · exact hlive.setPathAndContent ..
  · have hcleared : (tables.deleteSubtree row.root text).IsLive row.id :=
      fun other hother => hlive other (List.mem_filter.1 hother).1
    rw [deleteSubtree_withoutArchive]
    exact hcleared.setPathAndContent ..

/-- An item is updated without the archive as with it. -/
theorem IsNumbered.updateItem_withoutArchive (h : tables.IsNumbered) (root : String) (path : Path)
    (item : Item) :
    tables.withoutArchive.updateItem root path item =
      (tables.updateItem root path item).map withoutArchive := by
  unfold updateItem
  simp only [requireRoot_withoutArchive, placeAt_withoutArchive, lookup_withoutArchive]
  split
  · rfl
  · refine bind_eq_map fun _ _ => bind_eq_map fun place _ => ?_
    cases place with
    | missing => rfl
    | item => rfl
    | branch =>
      refine bind_eq_map fun read? hlookup => ?_
      cases read? with
      | none => rfl
      | some read =>
        obtain ⟨row, content⟩ := read
        obtain ⟨hmem, hactive, -⟩ := lookup_eq_some (ok_of_liftMishap hlookup)
        simp only
        split
        · refine bind_eq_map fun _ _ => ?_
          rw [h.rename_withoutArchive hmem hactive, liftBroken_map]
        · rfl

/-- An item is toggled without the archive as with it. -/
theorem IsNumbered.toggleItem_withoutArchive (h : tables.IsNumbered) (root : String)
    (path : Path) :
    tables.withoutArchive.toggleItem root path =
      (tables.toggleItem root path).map withoutArchive := by
  unfold toggleItem
  simp only [requireRoot_withoutArchive, lookup_withoutArchive]
  refine bind_eq_map fun _ _ => ?_
  split
  · rfl
  · refine bind_eq_map fun read? hlookup => ?_
    cases read? with
    | none => rfl
    | some read =>
      obtain ⟨hmem, hactive, -⟩ := lookup_eq_some (ok_of_liftMishap hlookup)
      simp only
      split
      · refine bind_eq_map fun fields _ => ?_
        rw [(h.isLive hmem hactive).setContent, liftBroken_map]
      · rfl

/-- A subtree moves without the archive as with it. -/
theorem IsNumbered.moveSubtree_withoutArchive (h : tables.IsNumbered) (root src dest : String) :
    tables.withoutArchive.moveSubtree root src dest =
      (tables.moveSubtree root src dest).map withoutArchive := by
  unfold moveSubtree
  rw [subtree_withoutArchive]
  refine moveRows_withoutArchive fun row hrow => ?_
  obtain ⟨hmem, hwithin⟩ := List.mem_filter.1 hrow
  have hactive := (prefix_of_isWithin hwithin).1
  exact ⟨hactive, h.isLive hmem hactive⟩

/-- A node moves without the archive as with it. -/
theorem IsNumbered.move_withoutArchive (h : tables.IsNumbered) (root : String) (src dest : Path) :
    tables.withoutArchive.move root src dest = (tables.move root src dest).map withoutArchive := by
  unfold move moveUnder
  simp only [requireRoot_withoutArchive, lookup_withoutArchive, placeAt_withoutArchive,
    h.moveSubtree_withoutArchive, liftBroken_map]
  refine bind_eq_map fun _ _ => ?_
  cases src.getLast? with
  | none => rfl
  | some name =>
    refine bind_eq_map fun read? _ => ?_
    cases read? with
    | none => rfl
    | some read =>
      refine bind_eq_map fun place _ => ?_
      cases place with
      | missing => rfl
      | item => rfl
      | branch =>
        simp only
        split
        · rfl
        · split
          · rfl
          · refine bind_eq_map fun there? _ => ?_
            cases there? <;> rfl

/-- An archive that is not there and one that is differ no more than what is archived. -/
theorem archive_withoutArchive (tables : Tables) (root : String) (path : Path) :
    (tables.withoutArchive.archive root path).map withoutArchive =
      (tables.archive root path).map withoutArchive := by
  unfold archive
  simp only [requireRoot_withoutArchive, subtreeSize_withoutArchive]
  cases tables.requireRoot root with
  | error failure => rfl
  | ok known =>
    change Except.map _ (if _ then _ else _) = Except.map _ (if _ then _ else _)
    split
    · rfl
    · simp only [Except.map, withoutArchive_archiveSubtree, deleteSubtree_withoutArchive,
        withoutArchive_withoutArchive]

/-- **No command looks at the archive.**  What a command does to tables without their archive
differs in nothing but archived rows from what it does to the tables. -/
theorem IsNumbered.execute_withoutArchive (h : tables.IsNumbered) (command : Command) :
    (tables.withoutArchive.execute command).map withoutArchive =
      (tables.execute command).map withoutArchive := by
  have htwice : ∀ result : Except Failure Tables,
      (result.map withoutArchive).map withoutArchive = result.map withoutArchive := by
    intro result
    cases result with
    | error failure => rfl
    | ok after => exact congrArg Except.ok after.withoutArchive_withoutArchive
  cases command with
  | createRoot root => exact (congrArg _ (createRoot_withoutArchive ..)).trans (htwice _)
  | createSection root path => exact (congrArg _ (create_withoutArchive ..)).trans (htwice _)
  | createItem root path title description state =>
    exact (congrArg _ (create_withoutArchive ..)).trans (htwice _)
  | updateItem root path title description state =>
    exact (congrArg _ (h.updateItem_withoutArchive ..)).trans (htwice _)
  | toggleItem root path => exact (congrArg _ (h.toggleItem_withoutArchive ..)).trans (htwice _)
  | move root src dest => exact (congrArg _ (h.move_withoutArchive ..)).trans (htwice _)
  | archive root path => exact archive_withoutArchive ..

end Tables

/-! Stores. -/

namespace TableStore

variable {a b store : TableStore}

/-- A store whose archived rows are taken away. -/
def withoutArchive (store : TableStore) : TableStore :=
  { store with tables := store.tables.withoutArchive }

/-- Two stores differ only in what is archived. -/
theorem withoutArchive_eq_iff : a.withoutArchive = b.withoutArchive ↔
    a.tables.withoutArchive = b.tables.withoutArchive ∧ a.hub? = b.hub? ∧ a.home? = b.home? :=
  iff_of_eq (TableStore.mk.injEq ..)

/-- What comes of commands, one after another. -/
def results (store : TableStore) : List Command → List (Except Failure Unit)
  | [] => []
  | command :: rest => (store.execute command).2 :: results (store.execute command).1 rest

/-- Whether a command has changed tables is seen from the active rows. -/
theorem done_eq_iff {tables after : Tables} (h : tables.IsNumbered) {command : Command}
    (hok : tables.execute command = .ok after) :
    after.withoutArchive = tables.withoutArchive ↔ after = tables :=
  ⟨((h.writes_execute hok).edits h).eq_of_withoutArchive, congrArg _⟩

/-- Stores that differ only in what is archived refuse the same, or differ no more afterwards. -/
theorem tablesAfter_alike (h : a.withoutArchive = b.withoutArchive) (ha : a.tables.IsNumbered)
    (hb : b.tables.IsNumbered) (command : Command) :
    (a.tablesAfter command).map Tables.withoutArchive =
      (b.tablesAfter command).map Tables.withoutArchive := by
  obtain ⟨htables, -, hhome⟩ := withoutArchive_eq_iff.1 h
  have hreadOnly : a.isReadOnly = b.isReadOnly := by rw [isReadOnly, isReadOnly, hhome]
  have hresult : (a.tables.execute command).map Tables.withoutArchive =
      (b.tables.execute command).map Tables.withoutArchive := by
    rw [← ha.execute_withoutArchive, htables, hb.execute_withoutArchive]
  unfold tablesAfter
  rcases Tables.map_eq_map_cases hresult with
    ⟨failure, hdone, hdone'⟩ | ⟨after, after', hdone, hdone', hafter⟩
  · rw [hdone, hdone', hreadOnly]
    split
    · next hok => cases hok
    · rfl
    · rfl
  · have hchanged : after ≠ a.tables ↔ after' ≠ b.tables := by
      rw [Ne, Ne, ← done_eq_iff ha hdone, ← done_eq_iff hb hdone', hafter, htables]
    rw [hdone, hdone'] at hresult ⊢
    simp only [hreadOnly, hchanged]
    split
    · rfl
    · exact hresult

/-- Stores that differ in the archive only come to the same end, and differ in no more. -/
theorem execute_alike (h : a.withoutArchive = b.withoutArchive) (ha : a.tables.IsNumbered)
    (hb : b.tables.IsNumbered) (command : Command) :
    (a.execute command).2 = (b.execute command).2 ∧
      (a.execute command).1.withoutArchive = (b.execute command).1.withoutArchive := by
  have hafter := tablesAfter_alike h ha hb command
  unfold execute
  rcases Tables.map_eq_map_cases hafter with
    ⟨failure, hdone, hdone'⟩ | ⟨after, after', hdone, hdone', hsame⟩
  · rw [hdone, hdone']
    exact ⟨rfl, h⟩
  · obtain ⟨-, hhub, hhome⟩ := withoutArchive_eq_iff.1 h
    rw [hdone, hdone', hhub]
    exact ⟨rfl, withoutArchive_eq_iff.2 ⟨hsame, rfl, hhome⟩⟩

/-- Stores that differ only in what is archived give the same results, and never differ more. -/
theorem run_alike (h : a.withoutArchive = b.withoutArchive) (ha : a.tables.IsNumbered)
    (hb : b.tables.IsNumbered) (commands : List Command) :
    a.results commands = b.results commands ∧
      (a.run commands).withoutArchive = (b.run commands).withoutArchive := by
  induction commands generalizing a b with
  | nil => exact ⟨rfl, h⟩
  | cons command rest ih =>
    obtain ⟨hresult, hstep⟩ := execute_alike h ha hb command
    have ha' := (writes_execute ha command).keep Tables.Write.isNumbered ha
    have hb' := (writes_execute hb command).keep Tables.Write.isNumbered hb
    obtain ⟨hresults, hrun⟩ := ih hstep ha' hb'
    refine ⟨?_, hrun⟩
    rw [results, results, hresult, hresults]

/-- The rows that are left keep their numbers. -/
theorem isNumbered_withoutArchive {tables : Tables} (h : tables.IsNumbered) :
    tables.withoutArchive.IsNumbered where
  numbered := h.numbered.sublist (List.filter_sublist.map _)
  fresh := fun row hrow => h.fresh row (List.mem_filter.1 hrow).1

/-- **The archive is kept and never seen.**  However tables came to be, as long as their rows have
numbers of their own: what is archived after some commands is so after any more, row by row as it
is.  And had all that was archived in the beginning been taken away, each command would have come
to the same, and so would each answer afterwards. -/
theorem archive_hidden (store : TableStore) (h : store.tables.IsNumbered)
    (commands later : List Command) :
    (store.run commands).tables.archived.Sublist
        (store.run (commands ++ later)).tables.archived ∧
      store.results commands = store.withoutArchive.results commands ∧
      (∀ root path, (store.run commands).tables.get root path =
        (store.withoutArchive.run commands).tables.get root path) ∧
      (store.run commands).tables.roots? = (store.withoutArchive.run commands).tables.roots? ∧
      (store.run commands).hub? = (store.withoutArchive.run commands).hub? := by
  have hsame : store.withoutArchive = store.withoutArchive.withoutArchive := by
    simp [withoutArchive]
  obtain ⟨hresults, hrun⟩ := run_alike hsame h (isNumbered_withoutArchive h) commands
  obtain ⟨htables, hhub, -⟩ := withoutArchive_eq_iff.1 hrun
  refine ⟨?_, hresults, fun root path => ?_, ?_, hhub⟩
  · have hnumbered := (writes_run h commands).keep Tables.Write.isNumbered h
    have hlater := (writes_run hnumbered later).edits hnumbered
    have hwhole : store.run (commands ++ later) = (store.run commands).run later :=
      List.foldl_append
    rw [hwhole]
    exact hlater.archived_sublist
  · rw [← Tables.get_withoutArchive, htables, Tables.get_withoutArchive]
  · rw [← Tables.roots?_withoutArchive, htables, Tables.roots?_withoutArchive]

/-- The tables of a store with three archived rows, one with a path that an active row has, too,
and one whose content cannot be read. -/
def withThreeArchived : TableStore :=
  ⟨⟨["r"],
    [⟨4, "r", "a", .item, some "[", false⟩, ⟨1, "r", "a", .group, none, true⟩,
     ⟨7, "r", "a.x", .group, none, false⟩, ⟨2, "r", "a.x", .item, none, true⟩,
     ⟨3, "q", "a.b", .group, none, false⟩], 8⟩, none, none⟩

/-- A subtree is archived, made again and moved. -/
theorem archive_hidden_recreated :
    (withThreeArchived.run [.archive "r" ["a"], .createSection "r" ["a"]]).tables.archived.Sublist
        (withThreeArchived.run ([.archive "r" ["a"], .createSection "r" ["a"]] ++
          [.createSection "r" ["b"], .move "r" ["a"] ["b"], .archive "r" ["b"]])).tables.archived ∧
      withThreeArchived.results [.archive "r" ["a"], .createSection "r" ["a"]] =
        withThreeArchived.withoutArchive.results [.archive "r" ["a"], .createSection "r" ["a"]] :=
  have h := archive_hidden withThreeArchived ⟨by decide, by decide⟩
    [.archive "r" ["a"], .createSection "r" ["a"]]
    [.createSection "r" ["b"], .move "r" ["a"] ["b"], .archive "r" ["b"]]
  ⟨h.1, h.2.1⟩

end TableStore

end TaskTree
