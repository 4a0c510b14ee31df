import TaskTree.Proofs.Tables.Move

/-!
# Commands on sound tables

Plain commands keep tables sound, and what is seen of the tables afterwards is
what `View.after` says of any graph (`IsSound.execute`): a command that is
refused changes nothing that is seen, and one that is done changes just what
it should.  A move succeeds exactly if it is `Movable` in what is seen.
-/

namespace TaskTree

/-- The names in a command are plain, and so is the title that a name is made of. -/
def CommandOf.IsPlain : Command → Prop
  | .createRoot _ => True
  | .createSection _ path => Path.Plain path
  | .createItem _ path _ _ _ => Path.Plain path
  | .updateItem _ path title _ _ => Path.Plain path ∧ '\x00' ∉ title.toList
  | .toggleItem _ path => Path.Plain path
  | .move _ src dest => Path.Plain src ∧ Path.Plain dest
  | .archive _ path => Path.Plain path

instance decidableIsPlain : (command : Command) → Decidable command.IsPlain
  | .createRoot _ => .isTrue trivial
  | .createSection _ path => inferInstanceAs (Decidable (Path.Plain path))
  | .createItem _ path _ _ _ => inferInstanceAs (Decidable (Path.Plain path))
  | .updateItem _ path title _ _ =>
    inferInstanceAs (Decidable (Path.Plain path ∧ '\x00' ∉ title.toList))
  | .toggleItem _ path => inferInstanceAs (Decidable (Path.Plain path))
  | .move _ src dest => inferInstanceAs (Decidable (Path.Plain src ∧ Path.Plain dest))
  | .archive _ path => inferInstanceAs (Decidable (Path.Plain path))

namespace Tables

variable {tables : Tables} {root : String}

/-- The tables after a result: a refusal leaves them as they were. -/
def settled (tables : Tables) (result : Except Failure Tables) : Tables :=
  result.toOption.getD tables

@[simp] theorem settled_ok (tables tables' : Tables) : tables.settled (.ok tables') = tables' := rfl

@[simp] theorem settled_error (tables : Tables) (failure : Failure) :
    tables.settled (.error failure) = tables := rfl

/-- A root that is there is not missed. -/
theorem requireRoot_of_mem (hroot : root ∈ tables.roots) : tables.requireRoot root = .ok () := by
  simp [requireRoot, hasRoot, hroot]

/-- A root that is not there is missed. -/
theorem requireRoot_of_not_mem (hroot : root ∉ tables.roots) :
    tables.requireRoot root = .error (.fault (.rootMissing root)) := by
  simp [requireRoot, hasRoot, hroot]

/-- The place of a branch is one that nodes are put below. -/
theorem IsSound.placeAt_of_branch (h : tables.IsSound) {path : Path} (hplain : path.Plain)
    (hbranch : (tables.view root).IsBranchAt path) : tables.placeAt root path = .ok .branch := by
  have hroot : root ∈ tables.roots := h.root_of_view hbranch.isSome
  obtain ⟨kind, hkind⟩ := hbranch
  rw [h.placeAt hroot hplain, hkind]

/-- Any other place is not. -/
theorem IsSound.placeAt_of_not_branch (h : tables.IsSound) {path : Path} (hplain : path.Plain)
    (hroot : root ∈ tables.roots) (hnot : ¬ (tables.view root).IsBranchAt path) :
    tables.placeAt root path = .ok .missing ∨ tables.placeAt root path = .ok .item := by
  rw [h.placeAt hroot hplain]
  cases hview : tables.view root path with
  | none => exact .inl rfl
  | some face =>
    cases face with
    | leaf item => exact .inr rfl
    | branch kind => exact absurd ⟨kind, hview⟩ hnot

/-- A row with a legal path is put below a branch, over what stands there. -/
theorem IsSound.create_of_branch (h : tables.IsSound) {above : Path} {name : String}
    (hplain : Path.Plain (above ++ [name]))
    (hlegal : ∀ segment ∈ above ++ [name], Path.IsLegal segment)
    (hunder : (tables.view root).IsBranchAt above) {kind : RowKind} {content : Option String}
    {node : Node} (hkept : ∀ row : Row, row.kind = kind → row.content = content →
      row.IsKept ∧ row.node? = some node) :
    ∃ tables', tables.create root (above ++ [name]) kind content = .ok tables' ∧
      tables.Becomes tables' root ((tables.view root).graft (above ++ [name]) node.view) := by
  have hroot : root ∈ tables.roots := h.root_of_view hunder.isSome
  have hcleared := @IsSound.deleteSubtree tables root h (above ++ [name]) (by simp) hplain
  have hunder' : ((tables.view root).prune (above ++ [name])).IsBranchAt above :=
    hunder.prune (Path.not_prefix_above above name)
  have hfree : (tables.view root).prune (above ++ [name]) (above ++ [name]) = none :=
    Node.graft_path ..
  obtain ⟨tables', hok, hbecomes⟩ := hcleared.sound.insert
    (fun segment hs => ⟨hlegal segment hs, (hplain segment hs).unended⟩)
    (hcleared.view_root.symm ▸ hunder') (hcleared.view_root.symm ▸ hfree) hkept
  have hdone : tables.create root (above ++ [name]) kind content = .ok tables' := by
    unfold Tables.create
    rw [if_neg (by simp), List.dropLast_concat, Path.check_eq_ok_iff.2 hlegal]
    simp only [liftFault, requireRoot_of_mem hroot, h.placeAt_of_branch hplain.left hunder, bind,
      Except.bind, hok, liftBroken]
  rw [hcleared.view_root, Node.View.prune, Node.graft_graft] at hbecomes
  exact ⟨tables', hdone, hcleared.trans hbecomes⟩

/-- No row is put anywhere else. -/
theorem IsSound.create_refused (h : tables.IsSound) {path : Path} (hplain : path.Plain)
    (hnot : ¬ (path ≠ [] ∧ (∀ segment ∈ path, Path.IsLegal segment) ∧
      (tables.view root).IsBranchAt path.dropLast)) (kind : RowKind) (content : Option String) :
    ∃ failure, tables.create root path kind content = .error failure := by
  unfold Tables.create
  by_cases hne : path = []
  · exact ⟨_, if_pos hne⟩
  · obtain ⟨above, name, rfl⟩ := Path.exists_above hne
    rw [if_neg hne, List.dropLast_concat] at *
    cases hcheck : Path.check (above ++ [name]) with
    | error fault => exact ⟨_, rfl⟩
    | ok u =>
      have hunder : ¬ (tables.view root).IsBranchAt above :=
        fun h' => hnot ⟨hne, Path.check_eq_ok_iff.1 hcheck, h'⟩
      by_cases hroot : root ∈ tables.roots
      · simp only [liftFault, requireRoot_of_mem hroot, bind, Except.bind]
        rcases h.placeAt_of_not_branch hplain.left hroot hunder with hplace | hplace <;>
        · rw [hplace]
          exact ⟨_, rfl⟩
      · simp only [liftFault, requireRoot_of_not_mem hroot, bind, Except.bind]
        exact ⟨_, rfl⟩

/-- Creating a node is seen as `created`, whatever row is put there for it. -/
theorem IsSound.create (h : tables.IsSound) {path : Path} (hplain : path.Plain) {kind : RowKind}
    {content : Option String} {node : Node}
    (hkept : ∀ row : Row, row.kind = kind → row.content = content →
      row.IsKept ∧ row.node? = some node) :
    tables.Becomes (tables.settled (tables.create root path kind content)) root
      ((tables.view root).created path node) := by
  by_cases hcan : path ≠ [] ∧ (∀ segment ∈ path, Path.IsLegal segment) ∧
      (tables.view root).IsBranchAt path.dropLast
  · obtain ⟨above, name, rfl⟩ := Path.exists_above hcan.1
    have hunder : (tables.view root).IsBranchAt above := by
      rw [← @List.dropLast_concat _ above name]
      exact hcan.2.2
    obtain ⟨tables', hok, hbecomes⟩ := h.create_of_branch hplain hcan.2.1 hunder hkept
    rw [hok, settled_ok, Node.View.created, if_pos hcan]
    exact hbecomes
  · obtain ⟨failure, hrefused⟩ := h.create_refused hplain hcan kind content
    rw [hrefused, settled_error]
    exact h.becomes_self (if_neg hcan)

/-- The row of an item gets the content of the item in its other state. -/
theorem IsSound.setContent_toggled (h : tables.IsSound) {path : Path} {row : Row}
    (hrow : tables.RowAt root path row) (hkind : row.kind = .item) (item : Item) :
    ∃ tables', tables.setContent row.id (ItemFields.ofItem item).toggled.text = .ok tables' ∧
      tables.Becomes tables' root ((tables.view root).graft path
        (Node.leaf { item with state := item.state.toggled }).view) := by
  obtain ⟨above, name, rfl⟩ := Path.exists_above hrow.ne_nil
  obtain ⟨tables', hok, hbecomes⟩ := @IsSound.replaceItem tables root above name h
    (above ++ [name]) row { row with content := some (ItemFields.ofItem item).toggled.text } _
    hrow hkind (h.legal hrow) (h.branch_parent (h.isSome_of_rowAt hrow)) (Node.graft_path ..) rfl
    hrow.active hrow.root hrow.path
    (.inr ⟨hkind, { item with state := item.state.toggled }, rfl⟩)
    (@Row.node?_item _ { item with state := item.state.toggled } hkind rfl)
  rw [Node.View.prune, Node.graft_graft] at hbecomes
  exact ⟨tables', by simp only [setContent, h.isNumbered.row?_of_mem hrow.mem, hok], hbecomes⟩

/-- Putting an item in its other state is seen as `toggled`. -/
theorem IsSound.toggleItem (h : tables.IsSound) {path : Path} (hplain : path.Plain) :
    tables.Becomes (tables.settled (tables.toggleItem root path)) root
      ((tables.view root).toggled path) := by
  unfold Tables.toggleItem
  by_cases hroot : root ∈ tables.roots
  · simp only [requireRoot_of_mem hroot, bind, Except.bind]
    by_cases hne : path = []
    · rw [if_pos hne, hne]
      refine h.becomes_self ?_
      rw [Node.View.toggled, h.view_root.2 hroot]
    · rw [if_neg hne]
      cases hview : tables.view root path with
      | none =>
        simp only [h.lookup_none hne hplain hview, liftMishap]
        refine h.becomes_self ?_
        rw [Node.View.toggled, hview]
      | some face =>
        obtain ⟨row, hrow⟩ := h.rowAt_of_view hne (by rw [hview]; rfl)
        obtain ⟨read, hread, hreadRow, hlookup⟩ := h.lookup_of_rowAt hrow
        simp only [hlookup, liftMishap, hreadRow]
        rcases h.kept hrow with ⟨hkind, hcontent⟩ | ⟨hkind, item, hcontent⟩
        · rw [hkind, if_neg (by decide)]
          refine h.becomes_self ?_
          rw [Node.View.toggled, h.view_group hrow hkind]
        · obtain ⟨read', hread', -, hfields⟩ := Row.read_item hcontent
          obtain rfl : read = read' := Except.ok.inj (hread.symm.trans hread')
          obtain ⟨tables', hok, hbecomes⟩ := h.setContent_toggled hrow hkind item
          rw [hkind, if_pos rfl, hfields, Node.View.toggled, h.view_item hrow hkind hcontent]
          simp only [hok, liftBroken, settled_ok]
          exact hbecomes
  · simp only [requireRoot_of_not_mem hroot, bind, Except.bind]
    refine h.becomes_self ?_
    rw [Node.View.toggled, h.view_of_not_mem hroot]

/-- The row of an item gets another path and another content, if nothing else is seen at
that path. -/
theorem IsSound.setPathAndContent (h : tables.IsSound) {path above : Path} {name : String}
    {row : Row} (hrow : tables.RowAt root path row) (hkind : row.kind = .item) (item : Item)
    (hlegal : ∀ segment ∈ above ++ [name], Path.IsLegal segment ∧ '\x00' ∉ segment.toList)
    (hunder : (tables.view root).IsBranchAt above)
    (hfree : (tables.view root).prune path (above ++ [name]) = none) :
    ∃ tables', tables.setPathAndContent row.id (Path.format (above ++ [name]))
        (ItemFields.ofItem item).text = .ok tables' ∧
      tables.Becomes tables' root (((tables.view root).prune path).graft (above ++ [name])
        (Node.leaf item).view) := by
  have hsegments : Path.splitText (Path.format (above ++ [name])) = above ++ [name] :=
    (Path.plain_of_legal hlegal).splitText_format (by simp)
  obtain ⟨tables', hok, hbecomes⟩ := @IsSound.replaceItem tables root above name h path row
    { row with
      path := Path.format (above ++ [name])
      content := some (ItemFields.ofItem item).text } _ hrow hkind hlegal hunder hfree rfl
    hrow.active hrow.root hsegments (.inr ⟨hkind, item, rfl⟩) (@Row.node?_item _ item hkind rfl)
  exact ⟨tables', by simp only [Tables.setPathAndContent, h.isNumbered.row?_of_mem hrow.mem, hok], hbecomes⟩

/-- The row of an item gets the path and the content of another item, over what stands there. -/
theorem IsSound.rename (h : tables.IsSound) {above : Path} {name newName : String} {row : Row}
    (hrow : tables.RowAt root (above ++ [name]) row) (hkind : row.kind = .item) (item : Item)
    (hlegal : ∀ segment ∈ above ++ [newName], Path.IsLegal segment ∧ '\x00' ∉ segment.toList) :
    ∃ tables', tables.rename row (Path.format (above ++ [newName])) item = .ok tables' ∧
      tables.Becomes tables' root (((tables.view root).prune (above ++ [name])).graft
        (above ++ [newName]) (Node.leaf item).view) := by
  have hplain := Path.plain_of_legal hlegal
  have hunder : (tables.view root).IsBranchAt above := h.branch_parent (h.isSome_of_rowAt hrow)
  unfold Tables.rename
  by_cases hsame : newName = name
  · subst hsame
    rw [if_pos hrow.text.symm]
    exact h.setPathAndContent hrow hkind item hlegal hunder (Node.graft_path ..)
  · have hpath : Path.format (above ++ [newName]) ≠ row.path := by
      intro heq
      have hsplit := congrArg Path.splitText heq
      rw [hplain.splitText_format (by simp)] at hsplit
      have hnames := List.append_inj' (hsplit.trans hrow.path) rfl
      exact hsame (List.singleton_inj.1 hnames.2)
    have hcleared :=
      @IsSound.deleteSubtree tables root h (above ++ [newName]) (by simp) hplain
    have hat : (tables.deleteSubtree root (Path.format (above ++ [newName]))).RowAt root
        (above ++ [name]) row :=
      (rowAt_deleteSubtree (by simp) hplain _ _ _).2
        ⟨hrow, fun h' => hsame (Path.eq_of_prefix_sibling h'.2)⟩
    have hunder' : ((tables.view root).prune (above ++ [newName])).IsBranchAt above :=
      hunder.prune (Path.not_prefix_above above newName)
    have hfree : ((tables.view root).prune (above ++ [newName])).prune (above ++ [name])
        (above ++ [newName]) = none :=
      (Node.graft_elsewhere (fun h' => hsame (Path.eq_of_prefix_sibling h').symm) ..).trans
        (Node.graft_path ..)
    obtain ⟨tables', hok, hbecomes⟩ := hcleared.sound.setPathAndContent hat hkind item hlegal
      (hcleared.view_root.symm ▸ hunder') (hcleared.view_root.symm ▸ hfree)
    rw [hcleared.view_root, Node.graft_prune_prune] at hbecomes
    exact ⟨tables', by rw [if_neg hpath, hrow.root]; exact hok, hcleared.trans hbecomes⟩

/-- Where no item is seen, nothing is replaced. -/
theorem IsSound.updateItem_elsewhere (h : tables.IsSound) {path : Path} (hplain : path.Plain)
    (hnot : path = [] ∨ ¬ (tables.view root).IsItemAt path) (item : Item) :
    tables.settled (tables.updateItem root path item) = tables := by
  unfold Tables.updateItem
  by_cases hne : path = []
  · rw [if_pos hne, settled_ok]
  · rw [if_neg hne]
    by_cases hroot : root ∈ tables.roots
    · obtain ⟨above, name, rfl⟩ := Path.exists_above hne
      rw [List.dropLast_concat]
      simp only [requireRoot_of_mem hroot, bind, Except.bind]
      by_cases hunder : (tables.view root).IsBranchAt above
      · rw [h.placeAt_of_branch hplain.left hunder]
        simp only
        cases hview : tables.view root (above ++ [name]) with
        | none =>
          simp only [h.lookup_none hne hplain hview, liftMishap, settled_ok]
        | some face =>
          obtain ⟨row, hrow⟩ := h.rowAt_of_view hne (by rw [hview]; rfl)
          obtain ⟨read, -, hreadRow, hlookup⟩ := h.lookup_of_rowAt hrow
          obtain ⟨row', content⟩ := read
          obtain rfl : row' = row := hreadRow
          simp only [hlookup, liftMishap]
          rcases h.view_of_rowAt hrow with ⟨hkind, -⟩ | ⟨-, item', -, hitem⟩
          · rw [hkind, if_neg (by decide), settled_error]
          · exact absurd ⟨item', hitem⟩ (hnot.resolve_left hne)
      · rcases h.placeAt_of_not_branch hplain.left hroot hunder with hplace | hplace <;>
        · rw [hplace]
          rfl
    · simp only [requireRoot_of_not_mem hroot, bind, Except.bind, settled_error]

/-- The item at a path is replaced if the name of its new title is legal. -/
theorem IsSound.updateItem_of_row (h : tables.IsSound) {above : Path} {name : String} {row : Row}
    (hrow : tables.RowAt root (above ++ [name]) row) (hkind : row.kind = .item) (item : Item) :
    tables.updateItem root (above ++ [name]) item =
      match Path.checkSegment (Path.nameOfTitle item.title) with
      | .error fault => .error (.fault fault)
      | .ok _ => liftBroken
          (tables.rename row (Path.format (above ++ [Path.nameOfTitle item.title])) item) := by
  have hplain : Path.Plain (above ++ [name]) := Path.plain_of_legal (h.legal hrow)
  have hunder : (tables.view root).IsBranchAt above := h.branch_parent (h.isSome_of_rowAt hrow)
  obtain ⟨⟨row', content⟩, -, hreadRow, hlookup⟩ := h.lookup_of_rowAt hrow
  obtain rfl : row' = row := hreadRow
  unfold Tables.updateItem
  rw [if_neg hrow.ne_nil, List.dropLast_concat]
  simp only [requireRoot_of_mem (h.rooted hrow), h.placeAt_of_branch hplain.left hunder, bind,
    Except.bind, hlookup, liftMishap, hkind, if_true]
  cases hcheck : Path.checkSegment (Path.nameOfTitle item.title) with
  | error fault => rfl
  | ok u => rfl

/-- The place under the name of a title is one that an item may have. -/
theorem IsSound.legal_renamed (h : tables.IsSound) {above : Path} {name title : String} {row : Row}
    (hrow : tables.RowAt root (above ++ [name]) row)
    (hname : Path.IsLegal (Path.nameOfTitle title)) (htitle : '\x00' ∉ title.toList) :
    ∀ segment ∈ above ++ [Path.nameOfTitle title],
      Path.IsLegal segment ∧ '\x00' ∉ segment.toList := by
  intro segment hs
  rcases List.mem_append.1 hs with hs | hs
  · exact h.legal hrow segment (List.mem_append_left _ hs)
  · rw [List.mem_singleton.1 hs]
    exact ⟨hname, Path.unended_nameOfTitle htitle⟩

/-- Replacing an item is seen as `updated`. -/
theorem IsSound.updateItem (h : tables.IsSound) {path : Path} (hplain : path.Plain) {item : Item}
    (htitle : '\x00' ∉ item.title.toList) :
    tables.Becomes (tables.settled (tables.updateItem root path item)) root
      ((tables.view root).updated path item) := by
  by_cases hitem : path ≠ [] ∧ (tables.view root).IsItemAt path
  · obtain ⟨above, name, rfl⟩ := Path.exists_above hitem.1
    obtain ⟨item', hseen⟩ := hitem.2
    obtain ⟨row, hrow⟩ := h.rowAt_of_view hitem.1 (by rw [hseen]; rfl)
    have hkind : row.kind = .item := by
      rcases h.view_of_rowAt hrow with ⟨-, hgroup⟩ | ⟨hkind, -⟩
      · rw [hseen] at hgroup
        cases hgroup
      · exact hkind
    rw [h.updateItem_of_row hrow hkind]
    cases hcheck : Path.checkSegment (Path.nameOfTitle item.title) with
    | error fault =>
      have hnot := Path.not_isLegal_of_checkSegment hcheck
      exact h.becomes_self (Node.View.updated_of_not_legal hnot ..)
    | ok u =>
      have hname := Path.checkSegment_eq_ok_iff.1 hcheck
      obtain ⟨tables', hok, hbecomes⟩ :=
        h.rename hrow hkind item (h.legal_renamed hrow hname htitle)
      simp only [hok, liftBroken, settled_ok]
      rw [Node.View.updated, if_pos ⟨hitem.1, hitem.2, hname⟩, Node.View.renamed,
        List.dropLast_concat]
      exact hbecomes
  · have hnot : path = [] ∨ ¬ (tables.view root).IsItemAt path := by
      by_cases hne : path = []
      · exact .inl hne
      · exact .inr fun h' => hitem ⟨hne, h'⟩
    rw [h.updateItem_elsewhere hplain hnot]
    exact h.becomes_self (if_neg fun h' => hitem ⟨h'.1, h'.2.1⟩)

/-- Archiving a node is seen as `archived`. -/
theorem IsSound.archive (h : tables.IsSound) {path : Path} (hplain : path.Plain) :
    tables.Becomes (tables.settled (tables.archive root path)) root
      ((tables.view root).archived path) := by
  unfold Tables.archive
  by_cases hroot : root ∈ tables.roots
  · simp only [requireRoot_of_mem hroot, bind, Except.bind]
    by_cases hne : path = []
    · rw [if_pos (.inl hne)]
      exact h.becomes_self (if_neg fun h' => h'.1 hne)
    · have hsize := @IsSound.subtreeSize_eq_zero_iff tables root h path hne hplain
      cases hview : tables.view root path with
      | none =>
        rw [if_pos (.inr (hsize.2 hview))]
        refine h.becomes_self (if_neg fun h' => ?_)
        rw [hview] at h'
        cases h'.2
      | some face =>
        have hsome : (tables.view root path).isSome := by rw [hview]; rfl
        rw [if_neg (fun h' => h'.elim hne fun h' => by rw [hsize, hview] at h'; cases h')]
        rw [Node.View.archived, if_pos ⟨hne, hsome⟩]
        exact h.archiveSubtree hne hplain
  · simp only [requireRoot_of_not_mem hroot, bind, Except.bind]
    refine h.becomes_self (if_neg fun h' => ?_)
    rw [h.view_of_not_mem hroot] at h'
    cases h'.2

/-- Which row stands where does not depend on the roots. -/
theorem rowAt_withRoots {roots : List String} {r : String} {p : Path} {row : Row} :
    RowAt { tables with roots } r p row ↔ tables.RowAt r p row :=
  ⟨fun hrow => ⟨hrow.mem, hrow.active, hrow.root, hrow.path⟩,
    fun hrow => ⟨hrow.mem, hrow.active, hrow.root, hrow.path⟩⟩

/-- A new root is seen as a user with nothing below it. -/
theorem IsSound.withRoot (h : tables.IsSound) (hempty : root ≠ "") (hroot : root ∉ tables.roots) :
    tables.Becomes { tables with roots := tables.roots ++ [root] } root Node.emptyUser.view := by
  have hsound : IsSound { tables with roots := tables.roots ++ [root] } := by
    refine h.fewer ?_ ?_ (fun r hr => List.mem_append_left _ hr) h.numbered h.fresh
      (fun hrow => rowAt_withRoots.1 hrow) fun _ hparent => rowAt_withRoots.2 hparent
    · rw [List.nodup_append]
      refine ⟨h.rootsDistinct, by simp, ?_⟩
      intro a ha b hb heq
      rw [heq, List.mem_singleton.1 hb] at ha
      exact hroot ha
    · rw [List.mem_append, List.mem_singleton]
      intro hcases
      rcases hcases with hmem | heq
      · exact h.rootsNamed hmem
      · exact hempty heq.symm
  refine h.becomes hsound ?_ (fun r p row _ => rowAt_withRoots) ?_
  · intro r hr
    simp [hr]
  · intro p
    cases p with
    | nil => exact hsound.view_root.2 (List.mem_append_right _ (List.mem_singleton.2 rfl))
    | cons segment rest =>
      have hnone : (Node.emptyUser.view) (segment :: rest) = none := rfl
      rw [hnone]
      apply hsound.view_eq_none (List.cons_ne_nil segment rest)
      intro row hrow
      exact hroot (h.rooted (rowAt_withRoots.1 hrow))

/-- Adding a root is seen as `added`. -/
theorem IsSound.createRoot (h : tables.IsSound) (root : String) :
    (tables.settled (tables.createRoot root)).IsSound ∧
      (tables.settled (tables.createRoot root)).view = tables.view.added root := by
  unfold Tables.createRoot addRoot Graph.View.added
  by_cases hempty : root = ""
  · rw [if_pos hempty, if_pos (.inl hempty)]
    exact ⟨h, rfl⟩
  · rw [if_neg hempty]
    by_cases hroot : root ∈ tables.roots
    · have hthere : tables.hasRoot root = true := by simp [hasRoot, hroot]
      have hseen : (tables.view root []).isSome := by rw [h.view_root.2 hroot]; rfl
      rw [if_pos hthere, if_pos (.inr hseen)]
      exact ⟨h, rfl⟩
    · have hthere : ¬ tables.hasRoot root = true := by simp [hasRoot, hroot]
      have hseen : ¬ (root = "" ∨ (tables.view root []).isSome = true) := by
        rw [h.view_of_not_mem hroot]
        simp [hempty]
      rw [if_neg hthere, if_neg hseen]
      have hbecomes := h.withRoot hempty hroot
      exact ⟨hbecomes.sound, hbecomes.view⟩

/-! Moves. -/

/-- A move is done exactly if it is possible in what is seen, and is seen as `moved`.  If it is
not done, it is refused with a fault. -/
structure Moves (tables : Tables) (root : String) (src dest : Path)
    (result : Except Failure Tables) : Prop where
  succeeds_iff : (∃ tables', result = .ok tables') ↔ (tables.view root).Movable src dest
  becomes : tables.Becomes (tables.settled result) root ((tables.view root).moved src dest)
  noMishap : ∀ mishap, result ≠ .error (.mishap mishap)

/-- A refusal is right where a move is not possible. -/
theorem IsSound.moves_refused (h : tables.IsSound) {src dest : Path}
    {result : Except Failure Tables} (hresult : ∃ fault, result = .error (.fault fault))
    (hnot : ¬ (tables.view root).Movable src dest) : tables.Moves root src dest result := by
  obtain ⟨fault, rfl⟩ := hresult
  refine ⟨⟨?_, fun h' => absurd h' hnot⟩, h.becomes_self (if_neg hnot), fun _ => nofun⟩
  intro hdone
  obtain ⟨tables', hok⟩ := hdone
  cases hok

/-- A node that is there moves under a branch outside of it, to a place that is free. -/
theorem IsSound.moveUnder_free (h : tables.IsSound) {above dest : Path} {name : String} {row : Row}
    (hrow : tables.RowAt root (above ++ [name]) row) (hsrc : Path.Plain (above ++ [name]))
    (hunder : (tables.view root).IsBranchAt dest)
    (hin : ¬ above ++ [name] <+: dest) (hfree : tables.view root (dest ++ [name]) = none) :
    ∃ tables', tables.moveSubtree root (Path.format (above ++ [name]))
        (Path.format (dest ++ [name])) = .ok tables' ∧
      tables.Becomes tables' root ((tables.view root).moved (above ++ [name]) dest) := by
  have hlanding := Node.View.landing_concat above name dest
  have hmovable : (tables.view root).Movable (above ++ [name]) dest :=
    ⟨hrow.ne_nil, h.isSome_of_rowAt hrow, hin, hunder, .inr (by rw [hlanding, hfree])⟩
  have hlegal : ∀ segment ∈ dest ++ [name], Path.IsLegal segment ∧ '\x00' ∉ segment.toList := by
    intro segment hs
    rcases List.mem_append.1 hs with hs | hs
    · have hne : dest ≠ [] := List.ne_nil_of_mem hs
      obtain ⟨parent, hparent, -⟩ := h.group_of_branch hne hunder
      exact h.legal hparent segment hs
    · exact h.legal hrow segment (List.mem_append_right _ hs)
  rw [Node.View.moved, if_pos hmovable, hlanding]
  exact h.moveSubtree hrow.ne_nil hsrc hlegal hin hunder hfree

/-- A node that is there moves under a branch. -/
theorem IsSound.moveUnder (h : tables.IsSound) {above dest : Path} {name : String} {row : Row}
    (hrow : tables.RowAt root (above ++ [name]) row) (hsrc : Path.Plain (above ++ [name]))
    (hdest : dest.Plain) (hunder : (tables.view root).IsBranchAt dest) :
    tables.Moves root (above ++ [name]) dest
      (tables.moveUnder root (above ++ [name]) dest name) := by
  have hne : above ++ [name] ≠ [] := hrow.ne_nil
  have hfound := h.isSome_of_rowAt hrow
  have hlanding := Node.View.landing_concat above name dest
  have hplain : Path.Plain (dest ++ [name]) := hdest.append hsrc.right
  unfold Tables.moveUnder
  simp only
  by_cases hin : above ++ [name] <+: dest
  · rw [if_pos (List.isPrefixOf_iff_prefix.2 hin)]
    exact h.moves_refused ⟨_, rfl⟩ fun h' => h'.outside hin
  · rw [if_neg (mt List.isPrefixOf_iff_prefix.1 hin)]
    by_cases hsame : dest ++ [name] = above ++ [name]
    · have hmovable : (tables.view root).Movable (above ++ [name]) dest :=
        ⟨hne, hfound, hin, hunder, .inl (hlanding.trans hsame)⟩
      rw [if_pos (congrArg Path.format hsame)]
      refine ⟨⟨fun _ => hmovable, fun _ => ⟨tables, rfl⟩⟩, h.becomes_self ?_, fun _ => nofun⟩
      rw [Node.View.moved, if_pos hmovable, hlanding, hsame, Node.View.prune, Node.graft_graft]
      exact Node.graft_eq_self fun _ => rfl
    · have hpath : Path.format (dest ++ [name]) ≠ Path.format (above ++ [name]) := by
        intro heq
        have hsplit := congrArg Path.splitText heq
        rw [hplain.splitText_format (by simp), hsrc.splitText_format hne] at hsplit
        exact hsame hsplit
      rw [if_neg hpath]
      simp only [bind, Except.bind]
      cases hview : tables.view root (dest ++ [name]) with
      | some face =>
        have hthere : (tables.view root (dest ++ [name])).isSome := by rw [hview]; rfl
        obtain ⟨row', hrow'⟩ := h.rowAt_of_view (by simp) hthere
        obtain ⟨read, -, -, hlookup⟩ := h.lookup_of_rowAt hrow'
        simp only [hlookup, liftMishap]
        refine h.moves_refused ⟨_, rfl⟩ fun h' => ?_
        rcases h'.free with heq | hnone
        · exact hsame (hlanding.symm.trans heq)
        · rw [hlanding, hview] at hnone
          cases hnone
      | none =>
        have hmovable : (tables.view root).Movable (above ++ [name]) dest :=
          ⟨hne, hfound, hin, hunder, .inr (by rw [hlanding, hview])⟩
        obtain ⟨tables', hok, hbecomes⟩ := h.moveUnder_free hrow hsrc hunder hin hview
        simp only [h.lookup_none (by simp) hplain hview, liftMishap, hok, liftBroken]
        exact ⟨⟨fun _ => hmovable, fun _ => ⟨tables', rfl⟩⟩, hbecomes, fun _ => nofun⟩

/-- **Moves that can be done.**  A plain move on sound tables succeeds exactly if it is possible
in what is seen. -/
theorem IsSound.move (h : tables.IsSound) {src dest : Path} (hsrc : src.Plain)
    (hdest : dest.Plain) : tables.Moves root src dest (tables.move root src dest) := by
  unfold Tables.move
  by_cases hroot : root ∈ tables.roots
  · simp only [requireRoot_of_mem hroot, bind, Except.bind]
    by_cases hne : src = []
    · rw [hne]
      exact h.moves_refused ⟨_, rfl⟩ fun h' => h'.nonempty rfl
    · obtain ⟨above, name, rfl⟩ := Path.exists_above hne
      rw [List.getLast?_concat]
      cases hview : tables.view root (above ++ [name]) with
      | none =>
        simp only [h.lookup_none hne hsrc hview, liftMishap]
        refine h.moves_refused ⟨_, rfl⟩ fun h' => ?_
        have hfound := h'.found
        rw [hview] at hfound
        cases hfound
      | some face =>
        obtain ⟨row, hrow⟩ := h.rowAt_of_view hne (by rw [hview]; rfl)
        obtain ⟨read, -, -, hlookup⟩ := h.lookup_of_rowAt hrow
        simp only [hlookup, liftMishap]
        by_cases hunder : (tables.view root).IsBranchAt dest
        · rw [h.placeAt_of_branch hdest hunder]
          exact h.moveUnder hrow hsrc hdest hunder
        · have hnot : ¬ (tables.view root).Movable (above ++ [name]) dest :=
            fun h' => hunder h'.under
          rcases h.placeAt_of_not_branch hdest hroot hunder with hplace | hplace <;>
          · rw [hplace]
            exact h.moves_refused ⟨_, rfl⟩ hnot
  · simp only [requireRoot_of_not_mem hroot, bind, Except.bind]
    refine h.moves_refused ⟨_, rfl⟩ fun h' => ?_
    have hfound := h'.found
    rw [h.view_of_not_mem hroot] at hfound
    cases hfound

/-- **Plain commands keep tables sound.**  They leave to be seen what they do to what was
seen. -/
theorem IsSound.execute (h : tables.IsSound) {command : Command} (hplain : command.IsPlain) :
    (tables.settled (tables.execute command)).IsSound ∧
      (tables.settled (tables.execute command)).view = tables.view.after command := by
  cases command with
  | createRoot root => exact h.createRoot root
  | createSection root path =>
    have hcreate := @IsSound.create tables root h path hplain .group none .emptySection
      fun row hkind hcontent => ⟨.inl ⟨hkind, hcontent⟩, Row.node?_group hkind hcontent⟩
    exact ⟨hcreate.sound, hcreate.view⟩
  | createItem root path title description state =>
    have hcreate := @IsSound.create tables root h path hplain .item _ _
      fun row hkind hcontent => ⟨.inr ⟨hkind, ⟨title, description, state⟩, hcontent⟩,
        Row.node?_item hkind hcontent⟩
    exact ⟨hcreate.sound, hcreate.view⟩
  | updateItem root path title description state =>
    have hupdate := @IsSound.updateItem tables root h path hplain.1 ⟨title, description, state⟩
      hplain.2
    exact ⟨hupdate.sound, hupdate.view⟩
  | toggleItem root path =>
    have htoggle := @IsSound.toggleItem tables root h path hplain
    exact ⟨htoggle.sound, htoggle.view⟩
  | move root src dest =>
    have hmove := (@IsSound.move tables root h src dest hplain.1 hplain.2).becomes
    exact ⟨hmove.sound, hmove.view⟩
  | archive root path =>
    have harchive := @IsSound.archive tables root h path hplain
    exact ⟨harchive.sound, harchive.view⟩

end Tables

end TaskTree
