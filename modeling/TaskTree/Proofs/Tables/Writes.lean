import Mathlib.Logic.Relation
import TaskTree.Proofs.Tables.Runs

/-!
# What commands write

A command looks at tables first.  If nothing speaks against it, it writes, and all that any command
writes are a few things: a new root, a new row, another path or content for an active row, and the
removal or the archiving of a subtree (`Write`).  So what each of these keeps is kept by every
command (`IsNumbered.writes_execute`) and by runs of any length (`writes_run`), whatever names and
titles the commands are told: the numbers of rows, the rules of the tables, and that active rows
keep what rows of their kind keep (`isLawful_run`, `allKept_run`).
-/

namespace TaskTree

/-- What comes after a result is done with it. -/
theorem exists_of_bind_ok {ε α β : Type} {x : Except ε α} {f : α → Except ε β} {b : β}
    (h : (x >>= f) = .ok b) : ∃ a, x = .ok a ∧ f a = .ok b := by
  cases x with
  | error e => cases h
  | ok a => exact ⟨a, rfl, h⟩

/-- A row is read as itself, with its content. -/
theorem Row.row_of_read {row : Row} {read : ReadRow} (h : row.read = .ok read) : read.row = row := by
  unfold Row.read at h
  split at h
  · cases h
    rfl
  · split at h
    · cases h
      rfl
    · split at h
      · cases h
        rfl
      · cases h

namespace Tables

variable {tables after : Tables} {root : String} {path : Path}

/-- What comes through as a result was one before any rule could be broken. -/
theorem ok_of_liftBroken {α : Type} {x : Except Constraint α} {a : α}
    (h : liftBroken x = .ok a) : x = .ok a := by
  cases x with
  | error rule => cases h
  | ok b =>
    cases h
    rfl

/-- What comes through as a result was one before any mishap. -/
theorem ok_of_liftMishap {α : Type} {x : Except Mishap α} {a : α}
    (h : liftMishap x = .ok a) : x = .ok a := by
  cases x with
  | error mishap => cases h
  | ok b =>
    cases h
    rfl

/-- What is found under a text is an active row that has this text. -/
theorem lookup_eq_some {text : String} {read : ReadRow}
    (h : tables.lookup root text = .ok (some read)) :
    read.row ∈ tables.rows ∧ read.row.active = true ∧ read.row.root = root ∧
      read.row.path = text ∧ read.row.read = .ok read := by
  unfold lookup at h
  cases hfound : tables.find? root text with
  | none => simp only [hfound, Except.ok.injEq, reduceCtorEq] at h
  | some row =>
    simp only [hfound] at h
    cases hread : row.read with
    | error mishap =>
      rw [hread] at h
      cases h
    | ok read' =>
      rw [hread] at h
      cases h
      have hat := List.find?_some hfound
      simp only [standsAt, Bool.and_eq_true, beq_iff_eq] at hat
      rw [Row.row_of_read hread]
      exact ⟨List.mem_of_find?_eq_some hfound, hat.1.1, hat.1.2, hat.2, hread⟩

/-- A root that is added stands last, and no row changes. -/
theorem addRoot_eq_ok (h : tables.addRoot root = .ok after) :
    after = { tables with roots := tables.roots ++ [root] } := by
  unfold addRoot at h
  split at h
  · cases h
  · exact (Except.ok.inj h).symm

/-- A row is only replaced by one that meets no other row at its path. -/
theorem replace_eq_ok {new : Row} (h : tables.replace new = .ok after) :
    after = { tables with rows := tables.rows.map fun r => if r.id = new.id then new else r } ∧
      (new.active = true → ∀ row ∈ tables.rows, row.active = true → row.root = new.root →
        row.path = new.path → row.id = new.id) := by
  unfold replace at h
  split at h
  · cases h
  · next hfree =>
    cases h
    refine ⟨rfl, fun hactive row hmem hstands hroot hpath => ?_⟩
    rw [hactive, Bool.true_and, isTaken, List.any_eq_true] at hfree
    apply Decidable.byContradiction
    intro hid
    exact hfree ⟨row, hmem, by simp [standsAt, hstands, hroot, hpath, hid]⟩

/-- A row is only added at a path where no active row stands. -/
theorem insert_eq_ok {text : String} {kind : RowKind} {content : Option String}
    (h : tables.insert root text kind.word content = .ok after) :
    after = { tables with
        rows := tables.rows ++ [⟨tables.nextId, root, text, kind, content, true⟩]
        nextId := tables.nextId + 1 } ∧
      ∀ row ∈ tables.rows, row.active = true → row.root = root → row.path ≠ text := by
  unfold insert at h
  simp only [RowKind.ofWord?_word] at h
  split at h
  · cases h
  · next hnone =>
    split at h
    · cases h
    · cases h
      refine ⟨rfl, fun row hmem hactive hroot hpath => hnone ?_⟩
      rw [find?, List.find?_isSome]
      exact ⟨row, hmem, by simp [standsAt, hactive, hroot, hpath]⟩

/-! What the rules of the tables say. -/

/-- What the rules admit: no two active rows of a root have one path, either. -/
structure IsLawful (tables : Tables) : Prop extends IsNumbered tables where
  unique : ∀ {a b : Row}, a ∈ tables.rows → b ∈ tables.rows → a.active = true →
    b.active = true → a.root = b.root → a.path = b.path → a = b

/-- All active rows keep what rows of their kind keep. -/
def AllKept (tables : Tables) : Prop :=
  ∀ row ∈ tables.rows, row.active = true → row.IsKept

/-- Empty tables break no rule. -/
theorem isLawful_empty : IsLawful empty where
  numbered := List.nodup_nil
  fresh := fun _ h => nomatch h
  unique := fun h => nomatch h

/-! Single writes. -/

/-- One thing that is written. -/
inductive Write (tables : Tables) : Tables → Prop
  /-- A root is added. -/
  | root {name : String} {after : Tables} (hok : tables.addRoot name = .ok after) :
    Write tables after
  /-- A row is added, which keeps what rows of its kind keep. -/
  | row {root text : String} {kind : RowKind} {content : Option String} {after : Tables}
    (hkept : ∀ new : Row, new.kind = kind → new.content = content → new.IsKept)
    (hok : tables.insert root text kind.word content = .ok after) : Write tables after
  /-- An active row gets another path or another content. -/
  | change {old new : Row} {after : Tables} (hok : tables.replace new = .ok after)
    (hmem : old ∈ tables.rows) (hactive : old.active = true) (hid : new.id = old.id)
    (hstill : new.active = true) (hkept : old.IsKept → new.IsKept) : Write tables after
  /-- A subtree is removed. -/
  | removal (root text : String) : Write tables (tables.deleteSubtree root text)
  /-- A subtree is archived. -/
  | archive (root text : String) : Write tables (tables.archiveSubtree root text)

/-- Any number of writes, one after another. -/
abbrev Writes : Tables → Tables → Prop :=
  Relation.ReflTransGen Write

/-- A row of a subtree that is archived keeps its number. -/
theorem archived_id (root text : String) (row : Row) :
    (if isWithin root text row then { row with active := false } else row).id = row.id := by
  split <;> rfl

/-- A row that is active after a subtree is archived was so before. -/
theorem mem_of_mem_archiveSubtree {text : String} {row : Row}
    (h : row ∈ (tables.archiveSubtree root text).rows) (hactive : row.active = true) :
    row ∈ tables.rows := by
  obtain ⟨old, hold, rfl⟩ := List.mem_map.1 h
  split at hactive
  · cases hactive
  · next hout =>
    rw [if_neg hout]
    exact hold

/-- A write leaves the rows with numbers of their own. -/
theorem Write.isNumbered (hwrite : tables.Write after) (h : tables.IsNumbered) :
    after.IsNumbered := by
  cases hwrite with
  | root hok =>
    obtain rfl := addRoot_eq_ok hok
    exact ⟨h.numbered, h.fresh⟩
  | row hkept hok =>
    obtain ⟨rfl, -⟩ := insert_eq_ok hok
    exact h.append rfl
  | @change old new _ hok hmem hactive hid hstill hkept =>
    obtain ⟨rfl, -⟩ := replace_eq_ok hok
    exact h.map (replaced_id new)
  | removal root text =>
    exact ⟨h.numbered.sublist (List.filter_sublist.map _),
      fun row hrow => h.fresh row (List.mem_filter.1 hrow).1⟩
  | archive root text => exact h.map (archived_id root text)

/-- A write leaves the rules kept. -/
theorem Write.isLawful (hwrite : tables.Write after) (h : tables.IsLawful) : after.IsLawful := by
  refine ⟨hwrite.isNumbered h.toIsNumbered, ?_⟩
  cases hwrite with
  | root hok =>
    obtain rfl := addRoot_eq_ok hok
    exact h.unique
  | row hkept hok =>
    obtain ⟨rfl, hfree⟩ := insert_eq_ok hok
    intro a b ha hb hactive hactive' hroot hpath
    rcases List.mem_append.1 ha with ha | ha
    · rcases List.mem_append.1 hb with hb | hb
      · exact h.unique ha hb hactive hactive' hroot hpath
      · obtain rfl := List.mem_singleton.1 hb
        exact absurd hpath (hfree a ha hactive hroot)
    · obtain rfl := List.mem_singleton.1 ha
      rcases List.mem_append.1 hb with hb | hb
      · exact absurd hpath.symm (hfree b hb hactive' hroot.symm)
      · exact (List.mem_singleton.1 hb).symm
  | @change old new _ hok hmem hactive hid hstill hkept =>
    obtain ⟨rfl, hfree⟩ := replace_eq_ok hok
    intro a b ha hb hactive hactive' hroot hpath
    obtain ⟨a, holda, rfl⟩ := List.mem_map.1 ha
    obtain ⟨b, holdb, rfl⟩ := List.mem_map.1 hb
    by_cases hida : a.id = new.id
    · by_cases hidb : b.id = new.id
      · rw [if_pos hida, if_pos hidb]
      · rw [if_pos hida, if_neg hidb] at hroot hpath
        rw [if_neg hidb] at hactive'
        exact absurd (hfree hstill b holdb hactive' hroot.symm hpath.symm) hidb
    · by_cases hidb : b.id = new.id
      · rw [if_neg hida, if_pos hidb] at hroot hpath
        rw [if_neg hida] at hactive
        exact absurd (hfree hstill a holda hactive hroot hpath) hida
      · rw [if_neg hida] at hactive hroot hpath ⊢
        rw [if_neg hidb] at hactive' hroot hpath ⊢
        exact h.unique holda holdb hactive hactive' hroot hpath
  | removal root text =>
    intro a b ha hb
    exact h.unique (List.mem_filter.1 ha).1 (List.mem_filter.1 hb).1
  | archive root text =>
    intro a b ha hb hactive hactive'
    exact h.unique (mem_of_mem_archiveSubtree ha hactive) (mem_of_mem_archiveSubtree hb hactive')
      hactive hactive'

/-- A write leaves rows that can be read. -/
theorem Write.allKept (hwrite : tables.Write after) (h : tables.AllKept) : after.AllKept := by
  intro row hrow hactive
  cases hwrite with
  | root hok =>
    obtain rfl := addRoot_eq_ok hok
    exact h row hrow hactive
  | row hkept hok =>
    obtain ⟨rfl, -⟩ := insert_eq_ok hok
    rcases List.mem_append.1 hrow with hold | hnew
    · exact h row hold hactive
    · obtain rfl := List.mem_singleton.1 hnew
      exact hkept _ rfl rfl
  | @change old new _ hok hmem hold hid hstill hkept =>
    obtain ⟨rfl, -⟩ := replace_eq_ok hok
    obtain ⟨other, hother, rfl⟩ := List.mem_map.1 hrow
    by_cases hsame : other.id = new.id
    · rw [if_pos hsame]
      exact hkept (h old hmem hold)
    · rw [if_neg hsame] at hactive ⊢
      exact h other hother hactive
  | removal root text => exact h row (List.mem_filter.1 hrow).1 hactive
  | archive root text => exact h row (mem_of_mem_archiveSubtree hrow hactive) hactive

/-- What every write keeps, any number of them keep. -/
theorem Writes.keep {keeps : Tables → Prop} (hwrites : Writes tables after)
    (hstep : ∀ {before after : Tables}, before.Write after → keeps before → keeps after)
    (h : keeps tables) : keeps after := by
  induction hwrites with
  | refl => exact h
  | tail _ hwrite ih => exact hstep hwrite ih

/-! Commands. -/

/-- Creating is done by writes, if the row it adds can be read. -/
theorem writes_create {kind : RowKind} {content : Option String}
    (hkept : ∀ row : Row, row.kind = kind → row.content = content → row.IsKept)
    (hok : tables.create root path kind content = .ok after) : Writes tables after := by
  unfold Tables.create at hok
  split at hok
  · cases hok
  · obtain ⟨-, -, hok⟩ := exists_of_bind_ok hok
    obtain ⟨-, -, hok⟩ := exists_of_bind_ok hok
    obtain ⟨place, -, hok⟩ := exists_of_bind_ok hok
    cases place with
    | missing => cases hok
    | item => cases hok
    | branch =>
      exact .head (.removal root (Path.format path)) (.single (.row hkept (ok_of_liftBroken hok)))

/-- The row of an item gets another path and another item if it is still there. -/
theorem writes_setPathAndContent {row : Row} (hsame : ∀ r ∈ tables.rows, r.id = row.id → r = row)
    (hactive : row.active = true) (hkind : row.kind = .item) {text : String} {item : Item}
    (hok : tables.setPathAndContent row.id text (ItemFields.ofItem item).text = .ok after) :
    Writes tables after := by
  unfold Tables.setPathAndContent at hok
  cases hfound : tables.row? row.id with
  | none =>
    simp only [hfound] at hok
    cases hok
    exact .refl
  | some found =>
    simp only [hfound] at hok
    have hmem := List.mem_of_find?_eq_some hfound
    have hid : found.id = row.id := by simpa using List.find?_some hfound
    obtain rfl := hsame found hmem hid
    exact .single (.change hok hmem hactive rfl hactive fun _ => .inr ⟨hkind, item, rfl⟩)

/-- Renaming an item is done by writes. -/
theorem IsNumbered.writes_rename (h : tables.IsNumbered) {row : Row} (hmem : row ∈ tables.rows)
    (hactive : row.active = true) (hkind : row.kind = .item) {text : String} {item : Item}
    (hok : tables.rename row text item = .ok after) : Writes tables after := by
  unfold Tables.rename at hok
  simp only at hok
  split at hok
  · exact writes_setPathAndContent (fun r hr => h.eq_of_id hr hmem) hactive hkind hok
  · have hsame : ∀ r ∈ (tables.deleteSubtree row.root text).rows, r.id = row.id → r = row :=
      fun r hr => h.eq_of_id (List.mem_filter.1 hr).1 hmem
    exact .head (.removal row.root text) (writes_setPathAndContent hsame hactive hkind hok)

/-- Updating an item is done by writes. -/
theorem IsNumbered.writes_updateItem (h : tables.IsNumbered) {item : Item}
    (hok : tables.updateItem root path item = .ok after) : Writes tables after := by
  unfold Tables.updateItem at hok
  split at hok
  · cases hok
    exact .refl
  · obtain ⟨-, -, hok⟩ := exists_of_bind_ok hok
    obtain ⟨place, -, hok⟩ := exists_of_bind_ok hok
    cases place with
    | missing =>
      cases hok
      exact .refl
    | item => cases hok
    | branch =>
      obtain ⟨read?, hlookup, hok⟩ := exists_of_bind_ok hok
      cases read? with
      | none =>
        cases hok
        exact .refl
      | some read =>
        obtain ⟨row, content⟩ := read
        obtain ⟨hmem, hactive, -⟩ := lookup_eq_some (ok_of_liftMishap hlookup)
        simp only at hok
        split at hok
        · next hkind =>
          obtain ⟨-, -, hok⟩ := exists_of_bind_ok hok
          exact h.writes_rename hmem hactive hkind (ok_of_liftBroken hok)
        · cases hok

/-- An item stays one when its state is changed. -/
theorem isKept_toggled {read : ReadRow} {fields : ItemFields} (hread : read.row.read = .ok read)
    (hkind : read.row.kind = .item) (hfields : read.fields = .ok fields)
    (hkept : read.row.IsKept) :
    Row.IsKept { read.row with content := some fields.toggled.text } := by
  rcases hkept with ⟨hgroup, -⟩ | ⟨-, item, hcontent⟩
  · rw [hkind] at hgroup
    cases hgroup
  · obtain ⟨read', hread', -, hitem⟩ := Row.read_item hcontent
    obtain rfl : read = read' := Except.ok.inj (hread.symm.trans hread')
    obtain rfl : fields = ItemFields.ofItem item := Except.ok.inj (hfields.symm.trans hitem)
    exact .inr ⟨hkind, { item with state := item.state.toggled }, rfl⟩

/-- Toggling an item is done by writes. -/
theorem IsNumbered.writes_toggleItem (h : tables.IsNumbered)
    (hok : tables.toggleItem root path = .ok after) : Writes tables after := by
  unfold Tables.toggleItem at hok
  obtain ⟨-, -, hok⟩ := exists_of_bind_ok hok
  split at hok
  · cases hok
  · obtain ⟨read?, hlookup, hok⟩ := exists_of_bind_ok hok
    cases read? with
    | none =>
      cases hok
      exact .refl
    | some read =>
      obtain ⟨hmem, hactive, -, -, hread⟩ := lookup_eq_some (ok_of_liftMishap hlookup)
      simp only at hok
      split at hok
      · next hkind =>
        obtain ⟨fields, hfields, hok⟩ := exists_of_bind_ok hok
        have hok := ok_of_liftBroken hok
        unfold Tables.setContent at hok
        cases hfound : tables.row? read.row.id with
        | none =>
          simp only [hfound] at hok
          cases hok
          exact .refl
        | some found =>
          simp only [hfound] at hok
          have hid : found.id = read.row.id := by simpa using List.find?_some hfound
          obtain rfl := h.eq_of_id (List.mem_of_find?_eq_some hfound) hmem hid
          exact .single (.change hok hmem hactive rfl hactive
            (isKept_toggled hread hkind (ok_of_liftMishap hfields)))
      · cases hok

/-- Rows that move are changed one after another. -/
theorem writes_moveRows {src dest : String} {moving : List Row} {tables : Tables}
    (hmem : ∀ row ∈ moving, row ∈ tables.rows) (hactive : ∀ row ∈ moving, row.active = true)
    (hmoving : (moving.map Row.id).Nodup) (hok : moveRows src dest moving tables = .ok after) :
    Writes tables after := by
  induction moving generalizing tables with
  | nil =>
    cases hok
    exact .refl
  | cons row rest ih =>
    obtain ⟨hfirst, hrest⟩ := List.nodup_cons.1 hmoving
    unfold moveRows at hok
    cases hreplaced : tables.replace { row with path := movedPath src dest row.path } with
    | error rule =>
      simp only [hreplaced] at hok
      cases hok
    | ok middle =>
      simp only [hreplaced] at hok
      obtain ⟨rfl, -⟩ := replace_eq_ok hreplaced
      have hstands := hactive row (List.mem_cons_self ..)
      refine .head (.change hreplaced (hmem row (List.mem_cons_self ..)) hstands rfl hstands
        fun hkept => hkept) (ih ?_ ?_ hrest hok)
      · exact @rest_mem_moved _ _ row _ hmem hfirst
      · exact fun other hother => hactive other (List.mem_cons_of_mem _ hother)

/-- Moving is done by writes. -/
theorem IsNumbered.writes_move (h : tables.IsNumbered) {src dest : Path}
    (hok : tables.move root src dest = .ok after) : Writes tables after := by
  unfold Tables.move at hok
  obtain ⟨-, -, hok⟩ := exists_of_bind_ok hok
  cases hlast : src.getLast? with
  | none =>
    rw [hlast] at hok
    cases hok
  | some name =>
    rw [hlast] at hok
    obtain ⟨read?, -, hok⟩ := exists_of_bind_ok hok
    cases read? with
    | none => cases hok
    | some read =>
      obtain ⟨place, -, hok⟩ := exists_of_bind_ok hok
      cases place with
      | missing => cases hok
      | item => cases hok
      | branch =>
        change tables.moveUnder root src dest name = .ok after at hok
        unfold Tables.moveUnder at hok
        simp only at hok
        split at hok
        · cases hok
        · split at hok
          · cases hok
            exact .refl
          · obtain ⟨there?, -, hok⟩ := exists_of_bind_ok hok
            cases there? with
            | some there => cases hok
            | none =>
              refine writes_moveRows (fun row hrow => (List.mem_filter.1 hrow).1)
                (fun row hrow => ?_) (h.numbered.sublist (List.filter_sublist.map _))
                (ok_of_liftBroken hok)
              exact (prefix_of_isWithin (List.mem_filter.1 hrow).2).1

/-- Archiving is done by writes. -/
theorem writes_archive (hok : tables.archive root path = .ok after) : Writes tables after := by
  unfold Tables.archive at hok
  obtain ⟨-, -, hok⟩ := exists_of_bind_ok hok
  split at hok
  · cases hok
  · cases hok
    exact .single (.archive root _)

/-- **What commands write.**  Whatever a command that is done was told, it has changed tables by
single writes. -/
theorem IsNumbered.writes_execute (h : tables.IsNumbered) {command : Command}
    (hok : tables.execute command = .ok after) : Writes tables after := by
  cases command with
  | createRoot root =>
    change tables.createRoot root = .ok after at hok
    unfold Tables.createRoot at hok
    split at hok
    · cases hok
    · cases hadded : tables.addRoot root with
      | error fault =>
        rw [hadded] at hok
        cases hok
      | ok after' =>
        rw [hadded] at hok
        cases hok
        exact .single (.root hadded)
  | createSection root path => exact writes_create (fun _ hkind hcontent => .inl ⟨hkind, hcontent⟩) hok
  | createItem root path title description state =>
    exact writes_create
      (fun _ hkind hcontent => .inr ⟨hkind, ⟨title, description, state⟩, hcontent⟩) hok
  | updateItem root path title description state => exact h.writes_updateItem hok
  | toggleItem root path => exact h.writes_toggleItem hok
  | move root src dest => exact h.writes_move hok
  | archive root path => exact writes_archive hok

end Tables

/-! Runs. -/

namespace TableStore

variable {store : TableStore}

/-- A command that is done or refused leaves tables as some writes leave them. -/
theorem writes_execute (h : store.tables.IsNumbered) (command : Command) :
    Tables.Writes store.tables (store.execute command).1.tables := by
  rcases store.tables_execute command with hsame | hdone
  · exact hsame ▸ .refl
  · rw [hdone]
    cases hresult : store.tables.execute command with
    | error failure => exact .refl
    | ok after => exact h.writes_execute hresult

/-- So do any commands, one after another. -/
theorem writes_run (h : store.tables.IsNumbered) (commands : List Command) :
    Tables.Writes store.tables (store.run commands).tables := by
  induction commands generalizing store with
  | nil => exact .refl
  | cons command rest ih =>
    have hstep := writes_execute h command
    exact hstep.trans (ih (hstep.keep Tables.Write.isNumbered h))

/-- Any commands on empty tables lead to tables that the rules admit. -/
theorem isLawful_run (hstart : store.tables = .empty) (commands : List Command) :
    (store.run commands).tables.IsLawful := by
  have hempty : store.tables.IsLawful := hstart ▸ Tables.isLawful_empty
  exact (writes_run hempty.toIsNumbered commands).keep Tables.Write.isLawful hempty

/-- All active rows keep then what rows of their kind keep. -/
theorem allKept_run (hstart : store.tables = .empty) (commands : List Command) :
    (store.run commands).tables.AllKept := by
  have hempty : store.tables.IsLawful := hstart ▸ Tables.isLawful_empty
  have hkept : store.tables.AllKept := by
    rw [hstart]
    exact fun _ hrow => nomatch hrow
  exact (writes_run hempty.toIsNumbered commands).keep Tables.Write.allKept hkept

end TableStore

end TaskTree
