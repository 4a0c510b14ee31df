import TaskTree.Proofs.Graph.Refusal
import TaskTree.Proofs.Tables.Execute

/-!
# What tables refuse commands for

Tables refuse a command for what a graph refuses it for, in which the same is seen, unless the
command goes astray: tables look for what it asks for first, and say that it is not there
(`IsSound.endsIn_execute`).
-/

namespace TaskTree

/-- There is a result, or a fault of this kind. -/
def EndsIn {α : Type} (result : Except Failure α) : Option FaultKind → Prop
  | none => ∃ a, result = .ok a
  | some kind => ∃ fault, result = .error (.fault fault) ∧ fault.kind = kind

/-- What ends so is no mishap. -/
theorem EndsIn.noMishap {α : Type} {result : Except Failure α} {refusal? : Option FaultKind}
    (h : EndsIn result refusal?) (mishap : Mishap) : result ≠ .error (.mishap mishap) := by
  cases refusal? with
  | none =>
    obtain ⟨a, rfl⟩ := h
    exact nofun
  | some kind =>
    obtain ⟨fault, rfl, -⟩ := h
    exact nofun

namespace Graph

instance decidableAstray (seen : View) : (command : Command) → Decidable (seen.Astray command)
  | .createRoot _ => .isFalse id
  | .createSection root path | .createItem root path .. =>
    inferInstanceAs (Decidable (Node.View.IsFit path ∧ seen root path.dropLast = none ∧
      (seen root).meetsItem path.dropLast = true))
  | .updateItem root path .. => inferInstanceAs (Decidable (path ≠ [] ∧ seen root [] = none))
  | .toggleItem root _ => inferInstanceAs (Decidable (seen root [] = none))
  | .move .. => .isFalse id
  | .archive .. => .isFalse id

/-- What tables refuse a command for, if it is no move and this is seen of them. -/
def View.refusalInTables? (seen : View) (command : Command) : Option FaultKind :=
  if seen.Astray command then some .notFound else seen.refusal? command

end Graph

namespace Tables

variable {tables : Tables} {root : String} {path : Path}

/-- In sound tables creating a root ends as the view tells. -/
theorem IsSound.endsIn_createRoot (h : tables.IsSound) (root : String) :
    EndsIn (tables.createRoot root) (tables.view.refusal? (.createRoot root)) := by
  unfold Tables.createRoot addRoot Graph.View.refusal?
  by_cases hempty : root = ""
  · simp only [if_pos hempty]
    exact ⟨.emptyRoot, rfl, rfl⟩
  · simp only [if_neg hempty]
    by_cases hroot : root ∈ tables.roots
    · have hthere : tables.hasRoot root = true := by simp [hasRoot, hroot]
      simp only [h.view_root.2 hroot, hthere, Option.isSome_some, if_true]
      exact ⟨.rootExists root, rfl, rfl⟩
    · have hthere : tables.hasRoot root = false := by simp [hasRoot, hroot]
      simp only [h.view_of_not_mem hroot, hthere, Option.isSome_none, Bool.false_eq_true, if_false]
      exact ⟨_, rfl⟩

/-- Tables look for the branch above a node that is created, and not for items on the way. -/
theorem IsSound.endsIn_create (h : tables.IsSound) (hplain : path.Plain) {kind : RowKind}
    {content : Option String} {node : Node}
    (hkept : ∀ row : Row, row.kind = kind → row.content = content →
      row.IsKept ∧ row.node? = some node) :
    EndsIn (tables.create root path kind content)
      (if Node.View.IsFit path ∧ tables.view root path.dropLast = none ∧
          (tables.view root).meetsItem path.dropLast = true then some .notFound
        else (tables.view root).creation? path) := by
  by_cases hfit : Node.View.IsFit path
  · obtain ⟨above, name, rfl⟩ := Path.exists_above hfit.1
    have hcheck := Path.check_eq_ok_iff.2 hfit.2
    rw [Node.View.creation?, if_pos hfit, List.dropLast_concat]
    by_cases hunder : (tables.view root).IsBranchAt above
    · obtain ⟨tables', hok, -⟩ := h.create_of_branch hplain hfit.2 hunder hkept
      obtain ⟨kind, hkind⟩ := hunder
      have hsome : ¬ (Node.View.IsFit (above ++ [name]) ∧ tables.view root above = none ∧
          (tables.view root).meetsItem above = true) := by simp [hkind]
      rw [if_neg hsome, hkind]
      exact ⟨tables', hok⟩
    · unfold Tables.create
      rw [if_neg hfit.1, hcheck, List.dropLast_concat]
      by_cases hroot : root ∈ tables.roots
      · simp only [liftFault, requireRoot_of_mem hroot, h.placeAt hroot hplain.left, bind,
          Except.bind]
        cases hview : tables.view root above with
        | none =>
          cases (tables.view root).meetsItem above with
          | true =>
            rw [if_pos ⟨hfit, rfl, rfl⟩]
            exact ⟨_, rfl, rfl⟩
          | false =>
            rw [if_neg (by simp)]
            exact ⟨_, rfl, rfl⟩
        | some face =>
          rw [if_neg (by simp)]
          cases face with
          | branch kind => exact (hunder ⟨kind, hview⟩).elim
          | leaf item => exact ⟨.insertIntoItem, rfl, rfl⟩
      · have hnone : tables.view root = fun _ => none := funext (h.view_of_not_mem hroot)
        rw [hnone, Node.View.meetsItem_of_none fun _ => rfl, if_neg (by simp)]
        simp only [liftFault, requireRoot_of_not_mem hroot, bind, Except.bind]
        exact ⟨.rootMissing root, rfl, rfl⟩
  · rw [if_neg fun hastray => hfit hastray.1, Node.View.creation?, if_neg hfit]
    unfold Tables.create
    by_cases hne : path = []
    · rw [if_pos hne]
      exact ⟨.emptyPath, rfl, rfl⟩
    · rw [if_neg hne]
      cases hcheck : Path.check path with
      | error fault => exact ⟨fault, rfl, Path.kind_check hcheck⟩
      | ok u => exact (hfit ⟨hne, Path.check_eq_ok_iff.1 hcheck⟩).elim

/-- In sound tables toggling ends as the view tells, once the root is there. -/
theorem IsSound.endsIn_toggleItem (h : tables.IsSound) (hplain : path.Plain) :
    EndsIn (tables.toggleItem root path)
      (if tables.view root [] = none then some .notFound
        else (tables.view root).toggle? path) := by
  unfold Tables.toggleItem Node.View.toggle?
  by_cases hroot : root ∈ tables.roots
  · have hthere : tables.view root [] ≠ none := by simp [h.view_root.2 hroot]
    simp only [requireRoot_of_mem hroot, bind, Except.bind]
    rw [if_neg hthere]
    by_cases hne : path = []
    · rw [if_pos hne, hne, h.view_root.2 hroot]
      exact ⟨.notAnItem root, rfl, rfl⟩
    · rw [if_neg hne]
      cases hview : tables.view root path with
      | none =>
        simp only [h.lookup_none hne hplain hview, liftMishap]
        exact ⟨_, rfl⟩
      | some face =>
        obtain ⟨row, hrow⟩ := h.rowAt_of_view hne (by rw [hview]; rfl)
        obtain ⟨read, hread, hreadRow, hlookup⟩ := h.lookup_of_rowAt hrow
        simp only [hlookup, liftMishap, hreadRow]
        rcases h.kept hrow with ⟨hkind, hcontent⟩ | ⟨hkind, item, hcontent⟩
        · rw [h.view_group hrow hkind] at hview
          cases hview
          rw [hkind, if_neg (by decide)]
          exact ⟨.notAnItem _, rfl, rfl⟩
        · obtain ⟨read', hread', -, hfields⟩ := Row.read_item hcontent
          obtain rfl : read = read' := Except.ok.inj (hread.symm.trans hread')
          obtain ⟨tables', hok, -⟩ := h.setContent_toggled hrow hkind item
          rw [h.view_item hrow hkind hcontent] at hview
          cases hview
          rw [hkind, if_pos rfl, hfields]
          simp only [hok, liftBroken]
          exact ⟨tables', rfl⟩
  · simp only [requireRoot_of_not_mem hroot, bind, Except.bind]
    rw [if_pos (h.view_of_not_mem hroot [])]
    exact ⟨.rootMissing root, rfl, rfl⟩

/-- An item that is there can be replaced by one that has a title. -/
theorem IsSound.endsIn_updateItem_of_row (h : tables.IsSound) {above : Path} {name : String}
    {row : Row} (hrow : tables.RowAt root (above ++ [name]) row) (hkind : row.kind = .item)
    {item : Item} (htitle : '\x00' ∉ item.title.toList) :
    EndsIn (tables.updateItem root (above ++ [name]) item)
      (if Path.IsLegal (Path.nameOfTitle item.title) then none else some .invalidOperation) := by
  rw [h.updateItem_of_row hrow hkind]
  cases hcheck : Path.checkSegment (Path.nameOfTitle item.title) with
  | error fault =>
    rw [if_neg (Path.not_isLegal_of_checkSegment hcheck)]
    exact ⟨fault, rfl, Path.kind_checkSegment hcheck⟩
  | ok u =>
    have hname := Path.checkSegment_eq_ok_iff.1 hcheck
    obtain ⟨tables', hok, -⟩ := h.rename hrow hkind item (h.legal_renamed hrow hname htitle)
    rw [if_pos hname]
    simp only [hok, liftBroken]
    exact ⟨tables', rfl⟩

/-- Below a branch it depends on what is found. -/
theorem IsSound.endsIn_updateItem_below (h : tables.IsSound) {above : Path} {name : String}
    (hplain : Path.Plain (above ++ [name])) (hunder : (tables.view root).IsBranchAt above)
    {item : Item} (htitle : '\x00' ∉ item.title.toList) :
    EndsIn (tables.updateItem root (above ++ [name]) item)
      (match tables.view root (above ++ [name]) with
        | none => none
        | some (.branch _) => some .invalidOperation
        | some (.leaf _) =>
          if Path.IsLegal (Path.nameOfTitle item.title) then none else some .invalidOperation) := by
  have hne : above ++ [name] ≠ [] := by simp
  have hroot : root ∈ tables.roots := h.root_of_view hunder.isSome
  have hplace := h.placeAt_of_branch hplain.left hunder
  cases hview : tables.view root (above ++ [name]) with
  | none =>
    unfold Tables.updateItem
    rw [if_neg hne, List.dropLast_concat]
    simp only [requireRoot_of_mem hroot, hplace, h.lookup_none hne hplain hview, liftMishap, bind,
      Except.bind]
    exact ⟨tables, rfl⟩
  | some face =>
    obtain ⟨row, hrow⟩ := h.rowAt_of_view hne (by rw [hview]; rfl)
    rcases h.view_of_rowAt hrow with ⟨hkind, hgroup⟩ | ⟨hkind, item', -, hitem⟩
    · rw [hgroup] at hview
      cases hview
      obtain ⟨read, -, hreadRow, hlookup⟩ := h.lookup_of_rowAt hrow
      unfold Tables.updateItem
      rw [if_neg hne, List.dropLast_concat]
      simp only [requireRoot_of_mem hroot, hplace, hlookup, liftMishap, bind, Except.bind,
        hreadRow, hkind]
      exact ⟨.foundNotAnItem _, rfl, rfl⟩
    · rw [hitem] at hview
      cases hview
      exact h.endsIn_updateItem_of_row hrow hkind htitle

/-- In sound tables updating ends as the view tells, once the root is there. -/
theorem IsSound.endsIn_updateItem (h : tables.IsSound) (hplain : path.Plain) {item : Item}
    (htitle : '\x00' ∉ item.title.toList) :
    EndsIn (tables.updateItem root path item)
      (if path ≠ [] ∧ tables.view root [] = none then some .notFound
        else (tables.view root).update? path item.title) := by
  by_cases hne : path = []
  · subst hne
    exact ⟨tables, rfl⟩
  · obtain ⟨above, name, rfl⟩ := Path.exists_above hne
    by_cases hroot : root ∈ tables.roots
    · rw [if_neg (by simp [h.view_root.2 hroot]), Node.View.update?, if_neg hne,
        List.dropLast_concat]
      by_cases hunder : (tables.view root).IsBranchAt above
      · have hends := @IsSound.endsIn_updateItem_below tables root h above name hplain hunder item
          htitle
        obtain ⟨kind, hkind⟩ := hunder
        rw [hkind]
        exact hends
      · unfold Tables.updateItem
        rw [if_neg hne, List.dropLast_concat]
        simp only [requireRoot_of_mem hroot, h.placeAt hroot hplain.left, bind, Except.bind]
        cases hview : tables.view root above with
        | none => exact ⟨tables, rfl⟩
        | some face =>
          cases face with
          | leaf item' => exact ⟨.renameInsideItem, rfl, rfl⟩
          | branch kind => exact (hunder ⟨kind, hview⟩).elim
    · rw [if_pos ⟨hne, h.view_of_not_mem hroot []⟩]
      unfold Tables.updateItem
      rw [if_neg hne]
      simp only [requireRoot_of_not_mem hroot, bind, Except.bind]
      exact ⟨.rootMissing root, rfl, rfl⟩

/-- In sound tables archiving ends as the view tells of a removal. -/
theorem IsSound.endsIn_archive (h : tables.IsSound) (hplain : path.Plain) :
    EndsIn (tables.archive root path) ((tables.view root).removal? path) := by
  unfold Tables.archive Node.View.removal?
  by_cases hroot : root ∈ tables.roots
  · simp only [requireRoot_of_mem hroot, bind, Except.bind]
    by_cases hne : path = []
    · rw [if_pos (.inl hne), if_neg fun hthere => hthere.1 hne]
      exact ⟨.nodeMissing, rfl, rfl⟩
    · have hsize := @IsSound.subtreeSize_eq_zero_iff tables root h path hne hplain
      cases hview : tables.view root path with
      | none =>
        rw [if_pos (.inr (hsize.2 hview)), if_neg (by simp)]
        exact ⟨.nodeMissing, rfl, rfl⟩
      | some face =>
        rw [if_neg (by simp [hne, hsize, hview]), if_pos ⟨hne, rfl⟩]
        exact ⟨_, rfl⟩
  · simp only [requireRoot_of_not_mem hroot, bind, Except.bind]
    rw [if_neg (by simp [h.view_of_not_mem hroot])]
    exact ⟨.rootMissing root, rfl, rfl⟩

/-- **What tables refuse commands for** can be told from what is seen of them. -/
theorem IsSound.endsIn_execute (h : tables.IsSound) {command : Command} (hplain : command.IsPlain)
    (hmove : command.kind ≠ .move) :
    EndsIn (tables.execute command) (tables.view.refusalInTables? command) := by
  cases command with
  | createRoot root => exact h.endsIn_createRoot root
  | createSection root path =>
    exact h.endsIn_create hplain
      fun row hkind hcontent => ⟨.inl ⟨hkind, hcontent⟩, Row.node?_group hkind hcontent⟩
  | createItem root path title description state =>
    exact h.endsIn_create hplain
      fun row hkind hcontent => ⟨.inr ⟨hkind, ⟨title, description, state⟩, hcontent⟩,
        Row.node?_item hkind hcontent⟩
  | updateItem root path title description state =>
    exact @IsSound.endsIn_updateItem tables root path h hplain.1 ⟨title, description, state⟩
      hplain.2
  | toggleItem root path => exact h.endsIn_toggleItem hplain
  | move root src dest => exact (hmove rfl).elim
  | archive root path => exact h.endsIn_archive hplain

/-- **No mishaps.**  A plain command on sound tables is done, or it is refused with a fault. -/
theorem IsSound.noMishap (h : tables.IsSound) {command : Command} (hplain : command.IsPlain)
    (mishap : Mishap) : tables.execute command ≠ .error (.mishap mishap) := by
  by_cases hmove : command.kind = .move
  · cases command with
    | move root src dest => exact (h.move hplain.1 hplain.2).noMishap mishap
    | _ => cases hmove
  · exact (h.endsIn_execute hplain hmove).noMishap mishap

end Tables

end TaskTree
