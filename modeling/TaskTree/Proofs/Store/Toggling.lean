import TaskTree.Proofs.Graph.Toggling
import TaskTree.Proofs.Tables.Writes

/-!
# Toggling in both kinds of stores

The tables that commands lead to keep each item as a text, and a toggle reads the text and writes
another one in its place.  As what was written is read again, whatever title and description it
has, a toggle changes the state of one item and nothing else (`IsLawful.toggleItem_outcome`), and a
second toggle brings the text back that was there (`IsLawful.toggleItem_back`).  With what holds of
graphs, that is `toggle_twice`.
-/

namespace TaskTree

namespace Tables

variable {tables after : Tables} {root : String} {path : Path} {row : Row}

/-- The only active row at a path is found there. -/
theorem IsLawful.find?_of_mem (h : tables.IsLawful) (hmem : row ∈ tables.rows)
    (hactive : row.active = true) : tables.find? row.root row.path = some row := by
  have hsome : (tables.find? row.root row.path).isSome := by
    rw [find?, List.find?_isSome]
    exact ⟨row, hmem, by simp [standsAt, hactive]⟩
  obtain ⟨found, hfound⟩ := Option.isSome_iff_exists.1 hsome
  have hat := List.find?_some hfound
  simp only [standsAt, Bool.and_eq_true, beq_iff_eq] at hat
  rw [hfound, h.unique (List.mem_of_find?_eq_some hfound) hmem hat.1.1 hactive hat.1.2 hat.2]

/-- One row among others is replaced by another one with its number. -/
theorem map_replaced {front back : List Row} {new : Row}
    (hnumbered : ((front ++ row :: back).map Row.id).Nodup) (hid : new.id = row.id) :
    (front ++ row :: back).map (fun r => if r.id = new.id then new else r) =
      front ++ new :: back := by
  rw [List.map_append, List.map_cons, List.nodup_append, List.nodup_cons] at hnumbered
  obtain ⟨-, ⟨hback, -⟩, hfront⟩ := hnumbered
  have hkept : ∀ r : Row, r.id ≠ row.id → (if r.id = new.id then new else r) = r :=
    fun r hne => if_neg fun hsame => hne (hsame.trans hid)
  have hfrontKept : front.map (fun r => if r.id = new.id then new else r) = front :=
    (List.map_congr_left fun r hr => hkept r
      (hfront r.id (List.mem_map_of_mem hr) row.id (List.mem_cons_self ..))).trans (List.map_id _)
  have hbackKept : back.map (fun r => if r.id = new.id then new else r) = back :=
    (List.map_congr_left fun r hr => hkept r fun hsame =>
      hback (hsame ▸ List.mem_map_of_mem hr)).trans (List.map_id _)
  rw [List.map_append, List.map_cons, if_pos hid.symm, hfrontKept, hbackKept]

/-- A row can be replaced where it stands. -/
theorem IsLawful.replace_in_place (h : tables.IsLawful) {front back : List Row} {new : Row}
    (hrows : tables.rows = front ++ row :: back) (hactive : row.active = true)
    (hid : new.id = row.id) (hroot : new.root = row.root) (hpath : new.path = row.path) :
    tables.replace new = .ok { tables with rows := front ++ new :: back } := by
  have hmem : row ∈ tables.rows := by simp [hrows]
  have hfree : ∀ r ∈ tables.rows, r.active = true → r.root = new.root → r.path = new.path →
      r.id = new.id := by
    intro r hr hstands hsameRoot hsamePath
    rw [h.unique hr hmem hstands hactive (hsameRoot.trans hroot) (hsamePath.trans hpath), hid]
  rw [replace_of_free hfree, hrows, map_replaced (hrows ▸ h.numbered) hid]

/-- The row of an item gets the text of the item in its other state, and all other rows stay as
they are. -/
theorem IsLawful.toggleItem_of_item (h : tables.IsLawful) {front back : List Row} {item : Item}
    (hrows : tables.rows = front ++ row :: back) (hactive : row.active = true)
    (hkind : row.kind = .item) (hcontent : row.content = some (ItemFields.ofItem item).text)
    (hroot : row.root ∈ tables.roots) (hne : path ≠ []) (hpath : row.path = Path.format path) :
    tables.toggleItem row.root path = .ok { tables with
      rows := front ++ { row with content := some (ItemFields.ofItem
        { item with state := item.state.toggled }).text } :: back } := by
  have hmem : row ∈ tables.rows := by simp [hrows]
  obtain ⟨read, hread, hrow, hfields⟩ := Row.read_item hcontent
  have hlookup : tables.lookup row.root (Path.format path) = .ok (some read) := by
    rw [← hpath, lookup, h.find?_of_mem hmem hactive]
    simp only [hread]
    rfl
  have hreplace := @IsLawful.replace_in_place tables row h front back
    { row with content := some (ItemFields.ofItem item).toggled.text } hrows hactive rfl rfl rfl
  simp only [toggleItem, requireRoot_of_mem hroot, bind, Except.bind, if_neg hne, hlookup,
    liftMishap, hrow, if_pos hkind, hfields, setContent, h.row?_of_mem hmem, hreplace, liftBroken]
  rfl

/-- What a toggle comes to: it knows no such root, or is told the root itself, or finds nothing,
or no item, or the row of an item.  Then the content of that row is changed, which is read as the
item in its other state, and nothing else. -/
inductive ToggleOutcome (tables : Tables) (root : String) (path : Path) :
    Except Failure Tables → Prop
  | rootMissing (h : root ∉ tables.roots) :
    ToggleOutcome tables root path (.error (.fault (.rootMissing root)))
  | root (hroot : root ∈ tables.roots) (h : path = []) :
    ToggleOutcome tables root path (.error (.fault (.notAnItem root)))
  | missing (hroot : root ∈ tables.roots) (hne : path ≠ [])
    (h : ∀ row ∈ tables.rows, standsAt root (Path.format path) row = false) :
    ToggleOutcome tables root path (.ok tables)
  | group {row : Row} (hroot : root ∈ tables.roots) (hne : path ≠ []) (hmem : row ∈ tables.rows)
    (hstands : standsAt root (Path.format path) row = true) (hkind : row.kind = .group) :
    ToggleOutcome tables root path (.error (.fault (.notAnItem (Path.place root path))))
  | item {front back : List Row} {row : Row} {item : Item} {content : String}
    (hroot : root ∈ tables.roots) (hne : path ≠ []) (hrows : tables.rows = front ++ row :: back)
    (hstands : standsAt root (Path.format path) row = true)
    (hsegments : (∀ name ∈ path, Path.separator ∉ name.toList) → row.segments = path)
    (hbefore : row.node? = some (.leaf item))
    (hafter : Row.node? { row with content := some content } =
      some (.leaf { item with state := item.state.toggled })) :
    ToggleOutcome tables root path
      (.ok { tables with rows := front ++ { row with content := some content } :: back })

/-- A toggle comes to what is told of it. -/
theorem IsLawful.toggleItem_outcome (h : tables.IsLawful) (hkept : tables.AllKept) (root : String)
    (path : Path) : tables.ToggleOutcome root path (tables.toggleItem root path) := by
  by_cases hroot : root ∈ tables.roots
  · by_cases hne : path = []
    · simp only [toggleItem, requireRoot_of_mem hroot, bind, Except.bind, if_pos hne]
      exact .root hroot hne
    · cases hfound : tables.find? root (Path.format path) with
      | none =>
        simp only [toggleItem, requireRoot_of_mem hroot, bind, Except.bind, if_neg hne, lookup,
          hfound, liftMishap]
        exact .missing hroot hne fun row hrow => by simpa using List.find?_eq_none.1 hfound row hrow
      | some row =>
        have hmem := List.mem_of_find?_eq_some hfound
        have hstands := List.find?_some hfound
        have hat := hstands
        simp only [standsAt, Bool.and_eq_true, beq_iff_eq] at hat
        obtain ⟨⟨hactive, rfl⟩, hpath⟩ := hat
        rcases hkept row hmem hactive with ⟨hkind, hcontent⟩ | ⟨hkind, item, hcontent⟩
        · have hread : row.read = .ok ⟨row, none⟩ := by rw [Row.read, hcontent]
          have hnot : row.kind ≠ .item := by
            rw [hkind]
            decide
          simp only [toggleItem, requireRoot_of_mem hroot, bind, Except.bind, if_neg hne, lookup,
            hfound, hread, Except.map, liftMishap, if_neg hnot]
          exact .group hroot hne hmem hstands hkind
        · obtain ⟨front, back, hrows⟩ := List.append_of_mem hmem
          rw [h.toggleItem_of_item hrows hactive hkind hcontent hroot hne hpath]
          refine .item hroot hne hrows hstands (fun hundotted => ?_) (Row.node?_item hkind hcontent)
            (Row.node?_item hkind rfl)
          rw [Row.segments, hpath, Path.splitText_format hne hundotted]
  · simp only [toggleItem, requireRoot_of_not_mem hroot, bind, Except.bind]
    exact .rootMissing hroot

/-- A row that keeps what it should and is read as an item keeps the text of that item. -/
theorem content_of_node? {item : Item} (hkept : row.IsKept) (h : row.node? = some (.leaf item)) :
    row.kind = .item ∧ row.content = some (ItemFields.ofItem item).text := by
  rcases hkept with ⟨hkind, hcontent⟩ | ⟨hkind, item', hcontent⟩
  · rw [Row.node?_group hkind hcontent] at h
    cases h
  · rw [Row.node?_item hkind hcontent] at h
    cases h
    exact ⟨hkind, hcontent⟩

/-- A toggle that is done is undone by another one, to the letter. -/
theorem IsLawful.toggleItem_back (h : tables.IsLawful) (hkept : tables.AllKept)
    (hok : tables.toggleItem root path = .ok after) :
    after.toggleItem root path = .ok tables := by
  have hwrites := h.writes_toggleItem hok
  have hlawful := hwrites.keep Write.isLawful h
  have hkept' := hwrites.keep Write.allKept hkept
  have houtcome := h.toggleItem_outcome hkept root path
  rw [hok] at houtcome
  cases houtcome with
  | missing => exact hok
  | @item front back row item content hroot hne hrows hstands _ hbefore hafter =>
    simp only [standsAt, Bool.and_eq_true, beq_iff_eq] at hstands
    obtain ⟨⟨hactive, rfl⟩, hpath⟩ := hstands
    obtain ⟨-, hcontent⟩ := content_of_node? (hkept row (by simp [hrows]) hactive) hbefore
    have hmem : { row with content := some content } ∈
        front ++ { row with content := some content } :: back :=
      List.mem_append_right _ (List.mem_cons_self ..)
    obtain ⟨hkind, hcontent'⟩ := content_of_node? (hkept' _ hmem hactive) hafter
    have hback := hlawful.toggleItem_of_item rfl hactive hkind hcontent' hroot hne hpath
    simp only [TaskState.toggled_toggled, ← hcontent, ← hrows] at hback
    exact hback

end Tables

/-- They make an item whose title has a quotation mark, a backslash, a line break, a null and a
sign beyond the first plane. -/
def awkwardItem : List Command :=
  [.createRoot "r", .createSection "r" ["a"],
   .createItem "r" ["a", "x"] "\"\\\n\u0000𝄞" "é" .notDone]

end TaskTree
