import TaskTree.Proofs.Disk.Change

/-!
# Disks whose entries stand in folders

On a sound disk every entry stands in a folder (`IsSound`), so nothing lies below a file.  A disk
stays sound when files are put and removed and when folders are made.  Files that come and go do
not change where a location leads (`SameWays.find_eq_ok_iff`), and folders that are made do not
change where one leads at which something is (`Grows.find`).  None of this depends on when the
entries were changed, so waiting makes no difference (`SameEntries`).
-/

namespace TaskTree

namespace Location

@[simp] theorem parent_child (loc : Location) (name : String) : (loc.child name).parent = loc := by
  simp [parent, child]

end Location

namespace Disk

variable {disk disk' : Disk} {follow : Bool}

/-! Where walks end. -/

/-- A walk ends in a folder to which only folders lead. -/
theorem Walks.holder {links : Nat} {folder place : Location} {names : List String}
    (h : Walks disk follow links folder names place) (hway : IsWay disk folder) :
    IsWay disk place.parent := by
  induction h with
  | here => exact hway.parent
  | up more ih => exact ih hway.parent
  | down hname hsize hentry more ih => exact ih (hway.child hentry)
  | jump hname hsize hentry hfollow more ih => exact ih (hway.origin _)
  | last hname hsize hentry hfollow =>
    rw [Location.parent_child]
    exact hway

/-- What a location means stands in a folder. -/
theorem entry?_parent_of_find {loc place : Location} (h : disk.find follow loc = .ok place) :
    disk.entry? place.parent = some .folder := by
  obtain ⟨-, hwalk⟩ := find_eq_ok_iff.1 h
  exact (hwalk.holder (isWay_anchor disk loc.anchor)).entry

/-- A walk that does not end at a link is the same whether or not such a link is followed. -/
theorem Walks.followed {links : Nat} {folder place : Location} {names : List String}
    (h : Walks disk false links folder names place) (hplace : ¬ LeadsOn (disk.entry? place)) :
    Walks disk true links folder names place := by
  induction h with
  | here => exact .here
  | up more ih => exact .up (ih hplace)
  | down hname hsize hentry more ih => exact .down hname hsize hentry (ih hplace)
  | jump hname hsize hentry hfollow more ih =>
    exact .jump hname hsize hentry (fun _ => rfl) (ih hplace)
  | last hname hsize hentry hfollow =>
    exact .last hname hsize hentry fun target hlink => (hplace (.inr ⟨target, hlink⟩)).elim

/-- Something stands at a location.  A link at its end is not followed. -/
def holds (disk : Disk) (loc : Location) : Bool :=
  match disk.find false loc with
  | .ok place => (disk.entry? place).isSome
  | .error _ => false

/-- An entry is not made where something is. -/
theorem create_of_holds {loc : Location} (h : disk.holds loc = true) (e : Entry) :
    disk.create loc e = .error ⟨.exists, loc⟩ := by
  unfold holds at h
  unfold create
  split at h
  · next place hfind =>
    obtain ⟨old, hold⟩ := Option.isSome_iff_exists.1 h
    simp only [hfind, hold]
  · cases h

/-- Where no link is at the end it does not matter whether one is followed. -/
theorem find_of_not_leadsOn {loc place : Location} (h : disk.find false loc = .ok place)
    (hplace : ¬ LeadsOn (disk.entry? place)) : disk.find true loc = .ok place := by
  obtain ⟨hshort, hwalk⟩ := find_eq_ok_iff.1 h
  exact find_eq_ok_iff.2 ⟨hshort, hwalk.followed hplace⟩

/-! Disks with the same ways. -/

theorem SameWays.symm (h : SameWays disk disk') : SameWays disk' disk := by
  intro place
  rcases h place with heq | ⟨hbefore, hafter⟩
  · exact .inl heq.symm
  · exact .inr ⟨hafter, hbefore⟩

/-- A place leads on in both disks or in neither. -/
theorem SameWays.leadsOn_iff (h : SameWays disk disk') {place : Location} :
    LeadsOn (disk'.entry? place) ↔ LeadsOn (disk.entry? place) := by
  rcases h place with heq | ⟨hbefore, hafter⟩
  · rw [heq]
  · exact iff_of_false hafter hbefore

/-- Folders stay folders, and no new ones come. -/
theorem SameWays.folder (h : SameWays disk disk') {place : Location}
    (hfolder : disk.entry? place = some .folder) : disk'.entry? place = some .folder := by
  rcases h place with heq | ⟨hbefore, -⟩
  · exact heq.trans hfolder
  · exact (hbefore (.inl hfolder)).elim

/-- **Locations stay.**  Where the same ways are, a location leads to the same place. -/
theorem SameWays.find_eq_ok_iff (h : SameWays disk disk') {loc place : Location} :
    disk'.find follow loc = .ok place ↔ disk.find follow loc = .ok place := by
  rw [Disk.find_eq_ok_iff, Disk.find_eq_ok_iff]
  constructor
  · intro hfind
    exact ⟨hfind.1, hfind.2.keep h.symm⟩
  · intro hfind
    exact ⟨hfind.1, hfind.2.keep h⟩

/-! Sound disks. -/

/-- Every entry stands in a folder. -/
def IsSound (disk : Disk) : Prop :=
  ∀ place, (disk.entry? place).isSome = true → disk.entry? place.parent = some .folder

/-- An empty disk is sound. -/
theorem isSound_empty : IsSound empty := by
  intro place hsome
  have hanchor : place.names = [] := by
    by_cases hnames : place.names = []
    · exact hnames
    · rw [ entry?, stamped?, if_neg hnames] at hsome
      cases hsome
  rw [ entry?, stamped?, Location.parent, hanchor]
  rfl

/-- Nothing lies below what is not a folder. -/
theorem IsSound.entry?_below (h : IsSound disk) {place : Location}
    (hplace : disk.entry? place ≠ some .folder) {names : List String} (hne : names ≠ []) :
    disk.entry? ⟨place.anchor, place.names ++ names⟩ = none := by
  induction names generalizing place with
  | nil => exact (hne rfl).elim
  | cons name rest ih =>
    have hchild : disk.entry? (place.child name) = none := by
      cases hentry : disk.entry? (place.child name) with
      | none => rfl
      | some e =>
        have hparent := h (place.child name) (by rw [hentry]; rfl)
        rw [Location.parent_child] at hparent
        exact (hplace hparent).elim
    by_cases hrest : rest = []
    · subst hrest
      exact hchild
    · have hnot : disk.entry? (place.child name) ≠ some .folder := by simp [hchild]
      have hbelow := ih hnot hrest
      simpa [Location.child] using hbelow

/-- An entry may be put into a folder where no folder is. -/
theorem IsSound.put (h : IsSound disk) {place : Location} {e : Entry}
    (hparent : disk.entry? place.parent = some .folder)
    (hplace : disk.entry? place ≠ some .folder)
    (hentries : ∀ other, disk'.entry? other = if other = place then some e else disk.entry? other) :
    IsSound disk' := by
  have hfolders : ∀ other, disk.entry? other = some .folder →
      disk'.entry? other = some .folder := by
    intro other hother
    have hne : other ≠ place := by
      intro heq
      exact hplace (heq ▸ hother)
    rw [hentries, if_neg hne, hother]
  intro other hsome
  apply hfolders
  by_cases hother : other = place
  · rw [hother]
    exact hparent
  · rw [hentries, if_neg hother] at hsome
    exact h other hsome

/-- What is put in a folder leaves the disk sound. -/
theorem Puts.isSound {place : Location} {e : Entry} (h : Puts disk disk' place e)
    (hsound : IsSound disk) (hparent : disk.entry? place.parent = some .folder) :
    IsSound disk' :=
  hsound.put hparent (fun hfolder => h.before (.inl hfolder)) h.entries

/-- Creating something leaves the disk sound. -/
theorem IsSound.create (h : IsSound disk) {loc : Location} {e : Entry}
    (hcreate : disk.create loc e = .ok disk') : IsSound disk' := by
  obtain ⟨place, hfind, hnone, hentries⟩ := entry?_of_create hcreate
  refine h.put (entry?_parent_of_find hfind) ?_ hentries
  rw [hnone]
  exact fun heq => by cases heq

/-- Settling a folder leaves the disk sound. -/
theorem IsSound.settleFolder (h : IsSound disk) (loc : Location) :
    IsSound (disk.settleFolder loc).1 := by
  unfold Disk.settleFolder
  split
  · next hcreate => exact h.create hcreate
  · exact h

/-- Making folders leaves the disk sound. -/
theorem IsSound.ensureFolders (h : IsSound disk) (missing : Nat) (loc : Location) :
    IsSound (ensureFolders missing disk loc).1 := by
  induction missing generalizing loc with
  | zero => exact h.settleFolder loc
  | succ missing ih =>
    unfold Disk.ensureFolders
    split
    · next hcreate => exact h.create hcreate
    · split
      · have habove := ih loc.parent
        split
        · next heq =>
          rw [heq] at habove
          exact habove
        · next heq =>
          rw [heq] at habove
          exact habove.settleFolder loc
      · exact h

/-- A disk on which the folders on the way to a folder were made is as sound as before. -/
theorem IsSound.ensureFolder (h : IsSound disk) {loc : Location} {result : Except Refusal Unit}
    (hmake : disk.ensureFolder loc = (disk', result)) : IsSound disk' := by
  have hmade := h.ensureFolders loc.names.length loc
  rw [← Disk.ensureFolder, hmake] at hmade
  exact hmade

/-! Disks that grow. -/

/-- What stands on a disk stands on the other. -/
def Grows (disk disk' : Disk) : Prop :=
  ∀ place e, disk.entry? place = some e → disk'.entry? place = some e

theorem Grows.refl (disk : Disk) : Grows disk disk := fun _ _ h => h

theorem Grows.trans {disk'' : Disk} (h : Grows disk disk') (h' : Grows disk' disk'') :
    Grows disk disk'' :=
  fun place e hentry => h' place e (h place e hentry)

/-- Creating something takes nothing away. -/
theorem grows_create {loc : Location} {e : Entry} (h : disk.create loc e = .ok disk') :
    Grows disk disk' := by
  obtain ⟨place, -, hnone, hentries⟩ := entry?_of_create h
  intro other e' hother
  have hne : other ≠ place := by
    intro heq
    rw [heq, hnone] at hother
    cases hother
  rw [hentries, if_neg hne, hother]

/-- Settling a folder takes nothing away. -/
theorem grows_settleFolder (disk : Disk) (loc : Location) :
    Grows disk (disk.settleFolder loc).1 := by
  unfold Disk.settleFolder
  split
  · next hcreate => exact grows_create hcreate
  · exact Grows.refl disk

/-- Making folders takes nothing away. -/
theorem grows_ensureFolders (missing : Nat) (disk : Disk) (loc : Location) :
    Grows disk (Disk.ensureFolders missing disk loc).1 := by
  induction missing generalizing loc with
  | zero => exact grows_settleFolder disk loc
  | succ missing ih =>
    unfold Disk.ensureFolders
    split
    · next hcreate => exact grows_create hcreate
    · split
      · have habove := ih loc.parent
        split
        · next heq =>
          rw [heq] at habove
          exact habove
        · next heq =>
          rw [heq] at habove
          exact habove.trans (grows_settleFolder _ loc)
      · exact Grows.refl disk

/-- To make a folder takes nothing away, even if it is refused halfway. -/
theorem grows_ensureFolder {loc : Location} {result : Except Refusal Unit}
    (h : disk.ensureFolder loc = (disk', result)) : Grows disk disk' := by
  have hmade := grows_ensureFolders loc.names.length disk loc
  rw [← Disk.ensureFolder, h] at hmade
  exact hmade

/-- A walk to something that is there goes the same way on a disk that has grown. -/
theorem Walks.grow {links : Nat} {folder place : Location} {names : List String}
    (h : Walks disk follow links folder names place) (hgrows : Grows disk disk')
    (hplace : (disk.entry? place).isSome = true) : Walks disk' follow links folder names place := by
  induction h with
  | here => exact .here
  | up more ih => exact .up (ih hplace)
  | down hname hsize hentry more ih => exact .down hname hsize (hgrows _ _ hentry) (ih hplace)
  | jump hname hsize hentry hfollow more ih =>
    exact .jump hname hsize (hgrows _ _ hentry) hfollow (ih hplace)
  | last hname hsize hentry hfollow =>
    obtain ⟨e, he⟩ := Option.isSome_iff_exists.1 hplace
    have he' := hgrows _ _ he
    exact .last hname hsize (by rw [he', ← he]; exact hentry) (by rw [he', ← he]; exact hfollow)

/-- What is found is found when the disk has grown. -/
theorem Grows.find {loc place : Location} (h : Grows disk disk')
    (hfind : disk.find follow loc = .ok place) (hplace : (disk.entry? place).isSome = true) :
    disk'.find follow loc = .ok place := by
  obtain ⟨hshort, hwalk⟩ := find_eq_ok_iff.1 hfind
  exact find_eq_ok_iff.2 ⟨hshort, hwalk.grow h hplace⟩

/-! Removing files. -/

/-- In the entries that are kept the same is found at the places that are kept. -/
theorem lookup_kept (entries : List (Location × Entry × Int)) (keep : Location → Bool)
    (place : Location) :
    (entries.filter fun entry => keep entry.1).lookup place =
      if keep place then entries.lookup place else none := by
  induction entries with
  | nil => simp
  | cons entry rest ih =>
    obtain ⟨p, e, t⟩ := entry
    by_cases hplace : place = p
    · subst hplace
      cases hkeep : keep place with
      | true => simp [hkeep]
      | false => simpa [hkeep] using ih
    · have hne : (place == p) = false := by simpa using hplace
      cases hkeep : keep p with
      | true => simpa [List.lookup_cons, hkeep, hne] using ih
      | false => simpa [List.lookup_cons, hkeep, hne] using ih

/-- An entry that is taken away is gone with all that is below it. -/
theorem entry?_drop {place : Location} (hanchor : place.names ≠ []) (other : Location) :
    entry? (disk.drop place) other = if place.covers other then none else disk.entry? other := by
  have hstamp := entry?_stamp disk place.parent other disk.now
  have hkept := lookup_kept (disk.stamp place.parent disk.now).entries
    (fun p => !place.covers p) other
  by_cases hroot : other.names = []
  · have hnot : ¬ place.covers other = true := by
      intro hcovers
      obtain ⟨names, rfl⟩ := Location.covers_iff.1 hcovers
      exact hanchor (List.append_eq_nil_iff.1 hroot).1
    rw [if_neg hnot]
    unfold entry? stamped?
    rw [if_pos hroot, if_pos hroot]
    rfl
  · rw [← hstamp]
    unfold entry? stamped?
    rw [if_neg hroot, if_neg hroot]
    refine (congrArg (Option.map Prod.fst) hkept).trans ?_
    cases place.covers other with
    | true => rfl
    | false => rfl

/-- On a sound disk only the entry itself is gone, if it is not a folder. -/
theorem IsSound.entry?_drop (h : IsSound disk) {place : Location}
    (hplace : disk.entry? place ≠ some .folder) (other : Location) :
    entry? (disk.drop place) other = if other = place then none else disk.entry? other := by
  have hanchor : place.names ≠ [] := names_ne_nil_of_entry? hplace
  rw [Disk.entry?_drop hanchor]
  by_cases hother : other = place
  · subst hother
    have hcovers : other.covers other = true :=
      Location.covers_iff.2 ⟨[], by rw [List.append_nil]⟩
    rw [if_pos hcovers, if_pos rfl]
  · rw [if_neg hother]
    split
    · next hcovers =>
      obtain ⟨names, rfl⟩ := Location.covers_iff.1 hcovers
      refine (h.entry?_below hplace fun hnil => hother ?_).symm
      rw [hnil, List.append_nil]
    · rfl

/-- The file at a place is gone, if one was there, and nothing else. -/
structure Clears (disk disk' : Disk) (place : Location) : Prop where
  before : ¬ LeadsOn (disk.entry? place)
  entries : ∀ other, disk'.entry? other = if other = place then none else disk.entry? other

/-- At the place that was cleared there is nothing. -/
theorem Clears.entry {place : Location} (h : Clears disk disk' place) :
    disk'.entry? place = none := by
  rw [h.entries, if_pos rfl]

/-- Clearing a file changes no way. -/
theorem Clears.sameWays {place : Location} (h : Clears disk disk' place) : SameWays disk disk' := by
  intro other
  rw [h.entries other]
  by_cases hother : other = place
  · subst hother
    rw [if_pos rfl]
    exact .inr ⟨h.before, not_leadsOn_iff.2 (by simp)⟩
  · rw [if_neg hother]
    exact .inl rfl

/-- Clearing a file leaves the disk sound. -/
theorem Clears.isSound {place : Location} (h : Clears disk disk' place) (hsound : IsSound disk) :
    IsSound disk' := by
  intro other hsome
  rw [h.entries] at hsome
  split at hsome
  · cases hsome
  · exact h.sameWays.folder (hsound other hsome)

/-- A file that can be found on a sound disk can be removed. -/
theorem IsSound.removeFileIfPresent (h : IsSound disk) {loc place : Location}
    (hfind : disk.find false loc = .ok place) (hplace : ¬ LeadsOn (disk.entry? place)) :
    ∃ disk', disk.removeFileIfPresent loc = .ok disk' ∧ Clears disk disk' place := by
  unfold Disk.removeFileIfPresent removeFile
  simp only [hfind]
  cases hentry : disk.entry? place with
  | none =>
    refine ⟨disk, by simp only [if_true], hplace, fun other => ?_⟩
    split
    · next heq => rw [heq, hentry]
    · rfl
  | some e =>
    have hfolder : disk.entry? place ≠ some .folder := (not_leadsOn_iff.1 hplace).1
    refine ⟨disk.drop place, ?_, hplace, h.entry?_drop hfolder⟩
    cases e with
    | folder => exact (hfolder hentry).elim
    | _ => rfl

/-! Time. -/

/-- Two disks hold the same at every place.  They may have been changed at other times. -/
def SameEntries (disk disk' : Disk) : Prop :=
  ∀ place, disk'.entry? place = disk.entry? place

/-- Waiting changes no entries. -/
theorem sameEntries_wait (disk : Disk) (seconds : Int) : SameEntries disk (disk.wait seconds) := by
  intro place
  unfold entry? stamped?
  by_cases hanchor : place.names = []
  · rw [if_pos hanchor, if_pos hanchor]
    rfl
  · rw [if_neg hanchor, if_neg hanchor]
    rfl

/-- Disks with the same entries have the same ways. -/
theorem SameEntries.sameWays (h : SameEntries disk disk') : SameWays disk disk' :=
  fun place => .inl (h place)

/-- Disks with the same entries are both sound or neither is. -/
theorem SameEntries.isSound (h : SameEntries disk disk') (hsound : IsSound disk) :
    IsSound disk' := by
  intro place hsome
  rw [h place] at hsome
  rw [h place.parent]
  exact hsound place hsome

/-- A walk leads to the same place in both. -/
theorem SameEntries.walk (h : SameEntries disk disk') (links : Nat) (folder : Location)
    (names : List String) :
    disk'.walk follow links folder names = disk.walk follow links folder names := by
  induction links using Nat.strongRecOn generalizing folder names with
  | ind links ihLinks =>
    induction names generalizing folder with
    | nil => rw [walk_nil, walk_nil]
    | cons name rest ih =>
      rw [walk_cons, walk_cons, h (folder.child name), ih, ih]
      cases links with
      | zero => rfl
      | succ links => simp only [ihLinks links (Nat.lt_succ_self links)]

/-- The same is found in both. -/
theorem SameEntries.find (h : SameEntries disk disk') (loc : Location) :
    disk'.find follow loc = disk.find follow loc := by
  unfold Disk.find
  rw [h.walk]

/-- A location is a folder in both or in neither. -/
theorem SameEntries.isFolder (h : SameEntries disk disk') (loc : Location) :
    disk'.isFolder loc = disk.isFolder loc := by
  have hlook : disk'.look loc = disk.look loc := by
    unfold look
    rw [h.find]
    cases disk.find true loc with
    | error r => rfl
    | ok place => exact congrArg Except.ok (h place)
  unfold Disk.isFolder
  rw [hlook]

/-- Making an entry is refused on both disks, or leaves the same entries on both. -/
theorem SameEntries.create (h : SameEntries disk disk') (loc : Location) (e : Entry) :
    (∃ r, disk.create loc e = .error r ∧ disk'.create loc e = .error r) ∨
      ∃ made made', disk.create loc e = .ok made ∧ disk'.create loc e = .ok made' ∧
        SameEntries made made' := by
  unfold Disk.create
  rw [h.find]
  cases disk.find false loc with
  | error r => exact .inl ⟨r, rfl, rfl⟩
  | ok place =>
    simp only [h place]
    cases hentry : disk.entry? place with
    | some old => exact .inl ⟨_, rfl, rfl⟩
    | none =>
      refine .inr ⟨_, _, rfl, rfl, fun other => ?_⟩
      rw [entry?_add hentry, entry?_add ((h place).trans hentry), h other]

/-- A folder is settled in both alike. -/
theorem SameEntries.settleFolder (h : SameEntries disk disk') (loc : Location) :
    SameEntries (disk.settleFolder loc).1 (disk'.settleFolder loc).1 ∧
      (disk'.settleFolder loc).2 = (disk.settleFolder loc).2 := by
  unfold Disk.settleFolder createFolder
  rcases h.create loc .folder with ⟨r, hr, hr'⟩ | ⟨made, made', hmade, hmade', hsame⟩
  · rw [hr, hr']
    exact ⟨h, by simp only [h.isFolder]⟩
  · rw [hmade, hmade']
    exact ⟨hsame, rfl⟩

/-- Folders are made in both alike. -/
theorem SameEntries.ensureFolders (h : SameEntries disk disk') (missing : Nat) (loc : Location) :
    SameEntries (ensureFolders missing disk loc).1 (ensureFolders missing disk' loc).1 ∧
      (Disk.ensureFolders missing disk' loc).2 = (Disk.ensureFolders missing disk loc).2 := by
  induction missing generalizing loc with
  | zero => exact h.settleFolder loc
  | succ missing ih =>
    have habove := ih loc.parent
    unfold Disk.ensureFolders createFolder
    rcases h.create loc .folder with ⟨r, hr, hr'⟩ | ⟨made, made', hmade, hmade', hsame⟩
    · rw [hr, hr']
      by_cases hcode : r.code = .notFound
      · simp only [if_pos hcode]
        generalize Disk.ensureFolders missing disk loc.parent = above at habove
        generalize Disk.ensureFolders missing disk' loc.parent = above' at habove
        obtain ⟨made, result⟩ := above
        obtain ⟨made', result'⟩ := above'
        obtain ⟨hsame, rfl⟩ := habove
        cases result' with
        | error r => exact ⟨hsame, rfl⟩
        | ok done => exact hsame.settleFolder loc
      · simp only [if_neg hcode, h.isFolder]
        exact ⟨h, trivial⟩
    · rw [hmade, hmade']
      exact ⟨hsame, rfl⟩

/-- If the way to a folder can be made, it can be made on a disk with the same entries. -/
theorem SameEntries.ensureFolder (h : SameEntries disk disk') {loc : Location} {made : Disk}
    (hmade : disk.ensureFolder loc = (made, .ok ())) :
    ∃ made', disk'.ensureFolder loc = (made', .ok ()) ∧ SameEntries made made' := by
  obtain ⟨hsame, hresult⟩ := h.ensureFolders loc.names.length loc
  rw [← Disk.ensureFolder, ← Disk.ensureFolder, hmade] at hsame hresult
  exact ⟨_, Prod.ext rfl hresult, hsame⟩

/-- A location is too far in both or in neither. -/
theorem SameEntries.isTooFar (h : SameEntries disk disk') (loc : Location) :
    disk'.isTooFar loc = disk.isTooFar loc := by
  have hmissing : ∀ bound loc, disk'.missingOnWay bound loc = disk.missingOnWay bound loc := by
    intro bound
    induction bound with
    | zero => exact fun _ => rfl
    | succ bound ih =>
      intro loc
      unfold missingOnWay createFolder
      rcases h.create loc .folder with ⟨r, hr, hr'⟩ | ⟨made, made', hmade, hmade', -⟩
      · rw [hr, hr']
        simp only [ih]
      · rw [hmade, hmade']
  unfold Disk.isTooFar
  rw [hmissing]

end Disk

end TaskTree
