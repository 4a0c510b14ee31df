import TaskTree.Proofs.Disk.Folders
import TaskTree.Proofs.Vault.Content
import TaskTree.Proofs.Vault.Lock

/-!
# Obstacles to the lock

A handle takes the lock for held by another if the lock file is young enough, and also if a link
stands there that leads nowhere, or if an entry that is no folder is in the way of the folder of the
snapshot (`IsShutOut`): in these cases something is where an entry should be made, and that is all
that is looked at.  A load then says that the snapshot is locked and changes nothing, and in no
other case does it say so (`load_locked_iff`).
-/

namespace TaskTree

namespace Disk

variable {disk disk' : Disk} {loc : Location}

/-- What is at a location has an age, and nothing else has. -/
theorem age_cases (disk : Disk) (loc : Location) :
    ((∃ e, disk.look loc = .ok (some e)) ∧ ∃ age, disk.age loc = .ok age) ∨
      ∃ r, disk.age loc = .error r ∧ r.code ≠ .exists ∧
        (disk.IsAbsent loc ↔ r.code = .notFound) := by
  unfold IsAbsent look age entry?
  cases hfind : disk.find true loc with
  | error r =>
    refine .inr ⟨r, rfl, find_ne_exists hfind, ?_⟩
    simp [Except.map]
  | ok place =>
    cases hstamped : disk.stamped? place with
    | none =>
      refine .inr ⟨⟨.notFound, loc⟩, by simp [Except.map, hstamped], ?_, ?_⟩
      · intro heq
        cases heq
      · simp [Except.map, hstamped]
    | some stamped =>
      exact .inl ⟨⟨stamped.1, by simp [Except.map, hstamped]⟩,
        disk.now - stamped.2, by simp [Except.map, hstamped]⟩

/-- What has an age is there. -/
theorem look_of_age {age : Int} (h : disk.age loc = .ok age) :
    ∃ e, disk.look loc = .ok (some e) := by
  rcases age_cases disk loc with ⟨hlook, -⟩ | ⟨r, hage, -⟩
  · exact hlook
  · cases h.symm.trans hage

/-- Where something has an age something is held. -/
theorem holds_of_age {age : Int} (h : disk.age loc = .ok age) : disk.holds loc = true := by
  obtain ⟨e, hlook⟩ := look_of_age h
  exact holds_of_look hlook

/-- What has an age is not absent. -/
theorem not_isAbsent_of_age {age : Int} (h : disk.age loc = .ok age) : ¬ disk.IsAbsent loc := by
  obtain ⟨e, hlook⟩ := look_of_age h
  exact not_isAbsent_of_look hlook

/-! Files that were created. -/

/-- A created file is where it was asked for. -/
theorem find_of_createFile {bytes : List UInt8} (h : disk.createFile loc bytes = .ok disk') :
    ∃ place, disk'.find true loc = .ok place ∧
      disk'.stamped? place = some (.file bytes, disk'.now) := by
  obtain ⟨place, hfind, hputs⟩ := puts_of_createFile h
  have hfile : ¬ LeadsOn (disk'.entry? place) := by
    rw [hputs.entry]
    exact hputs.after
  refine ⟨place, find_of_not_leadsOn (hputs.find hfind) hfile, ?_⟩
  unfold createFile create at h
  cases hnone : disk.entry? place with
  | none =>
    simp only [hfind, hnone, Except.ok.injEq] at h
    rw [← h, stamped?_add hnone]
    rfl
  | some old => simp [hfind, hnone] at h

/-- A file that was created is read as it was written. -/
theorem readFile_of_createFile {bytes : List UInt8} (h : disk.createFile loc bytes = .ok disk') :
    disk'.readFile loc = .ok bytes := by
  obtain ⟨place, hfind, hstamped⟩ := find_of_createFile h
  simp [readFile, look, hfind, Except.map, entry?, hstamped]

/-- A file that was just created has no age yet. -/
theorem age_of_createFile {bytes : List UInt8} (h : disk.createFile loc bytes = .ok disk') :
    disk'.age loc = .ok 0 := by
  obtain ⟨place, hfind, hstamped⟩ := find_of_createFile h
  simp [age, hfind, Except.map, hstamped]

/-! Removing what is in the way. -/

/-- What was taken away, and is no folder, is not there any more. -/
theorem IsSound.not_holds_drop (h : disk.IsSound) {place : Location}
    (hfind : disk.find false loc = .ok place) (hplace : disk.entry? place ≠ some .folder) :
    holds (disk.drop place) loc = false := by
  have hentries := h.entry?_drop hplace
  have hgrows : Grows (disk.drop place) disk := by
    intro other e hother
    rw [hentries] at hother
    split at hother
    · cases hother
    · exact hother
  cases hthere : holds (disk.drop place) loc with
  | false => rfl
  | true =>
    unfold holds at hthere
    split at hthere
    · next found hfound =>
      cases hfind.symm.trans (hgrows.find hfound hthere)
      rw [hentries, if_pos rfl] at hthere
      cases hthere
    · cases hthere

/-- What stands at a location can be removed, and nothing stands there then; or it cannot, for want
of a way or because it is a folder. -/
theorem IsSound.removeFileIfPresent_cases (h : disk.IsSound) (loc : Location) :
    (∃ r, disk.removeFileIfPresent loc = .error r ∧ r.code ≠ .exists) ∨
      ∃ disk', disk.removeFileIfPresent loc = .ok disk' ∧ disk'.holds loc = false := by
  unfold Disk.removeFileIfPresent removeFile
  cases hfind : disk.find false loc with
  | error r =>
    by_cases hcode : r.code = .notFound
    · exact .inr ⟨disk, by simp only [if_pos hcode], holds_of_refused hfind⟩
    · exact .inl ⟨r, by simp only [if_neg hcode], find_ne_exists hfind⟩
  | ok place =>
    simp only
    cases hentry : disk.entry? place with
    | none =>
      refine .inr ⟨disk, by simp only [if_true], ?_⟩
      rw [holds, hfind]
      simp only [hentry, Option.isSome_none]
    | some e =>
      cases e with
      | folder =>
        refine .inl ⟨⟨.isFolder, loc⟩, rfl, ?_⟩
        intro heq
        cases heq
      | _ => exact .inr ⟨disk.drop place, rfl, h.not_holds_drop hfind (by simp [hentry])⟩

end Disk

namespace Vault

variable {disk disk' made : Disk} {vault : Vault} {lock place : Location} {staleAfter : Int}

/-! The lock file. -/

/-- Taking a lock over is never refused because a file is there. -/
theorem takeOver_ne_exists (hsound : disk.IsSound) {r : Disk.Refusal}
    (h : takeOver disk lock = .error r) : r.code ≠ .exists := by
  unfold takeOver at h
  rcases hsound.removeFileIfPresent_cases lock with ⟨r', hrefused, hcode⟩ | ⟨cleared, hremove, hnone⟩
  · simp only [hrefused, Except.error.injEq] at h
    exact h ▸ hcode
  · simp only [hremove] at h
    rcases Disk.create_error h with ⟨-, hholds⟩ | ⟨hcode, -⟩
    · cases hnone.symm.trans hholds
    · exact hcode

/-- A refusal is not taken for a lock, unless it is that something is there. -/
theorem createLock_of_clear (hclear : disk.holds lock = false) :
    createLock disk lock staleAfter ≠ .error .snapshotLocked := by
  unfold createLock
  cases hcreate : disk.createFile lock lockPayload with
  | ok disk' =>
    intro h
    cases h
  | error r =>
    rcases Disk.create_error hcreate with ⟨-, hholds⟩ | ⟨hcode, -⟩
    · cases hclear.symm.trans hholds
    · simp only [if_pos hcode, if_neg hcode]
      intro h
      cases h

/-- Something that has no age is taken for a lock if it is a link that leads nowhere. -/
theorem createLock_of_ageless (hholds : disk.holds lock = true) {r : Disk.Refusal}
    (hage : disk.age lock = .error r) (hcode : r.code ≠ .exists) :
    createLock disk lock staleAfter = .error .snapshotLocked ↔ r.code = .notFound := by
  have hcreate : disk.createFile lock lockPayload = .error ⟨.exists, lock⟩ :=
    Disk.create_of_holds hholds _
  unfold createLock
  by_cases hmissing : r.code = .notFound
  · simp [hcreate, hage, hmissing]
  · simp [hcreate, hage, hmissing, hcode]

/-- Something that has an age is taken for a lock if it is young enough. -/
theorem createLock_of_age (hsound : disk.IsSound) {age : Int} (hage : disk.age lock = .ok age) :
    createLock disk lock staleAfter = .error .snapshotLocked ↔ age < staleAfter := by
  have hcreate : disk.createFile lock lockPayload = .error ⟨.exists, lock⟩ :=
    Disk.create_of_holds (Disk.holds_of_age hage) _
  unfold createLock
  by_cases hyoung : age < staleAfter
  · simp [hcreate, hage, hyoung]
  · cases htake : takeOver disk lock with
    | ok disk' => simp [hcreate, hage, hyoung]
    | error r => simp [hcreate, hage, hyoung, takeOver_ne_exists hsound htake]

/-- **When the lock counts as held**: if its file is young enough, and if a link stands there that
leads nowhere. -/
theorem createLock_locked_iff (hsound : disk.IsSound) :
    createLock disk lock staleAfter = .error .snapshotLocked ↔
      (∃ age, disk.age lock = .ok age ∧ age < staleAfter) ∨ disk.LeadsNowhere lock := by
  rcases Disk.age_cases disk lock with ⟨-, age, hage⟩ | ⟨r, hage, hcode, habsent⟩
  · have hthere : ¬ disk.LeadsNowhere lock := fun h => Disk.not_isAbsent_of_age hage h.absent
    simp [createLock_of_age hsound hage, hage, hthere]
  · have hageless : ¬ ∃ age, disk.age lock = .ok age ∧ age < staleAfter := by simp [hage]
    rw [or_iff_right hageless]
    cases hholds : disk.holds lock with
    | true =>
      rw [createLock_of_ageless hholds hage hcode, ← habsent]
      exact ⟨fun h => ⟨hholds, h⟩, fun h => h.absent⟩
    | false =>
      refine iff_of_false (createLock_of_clear hholds) fun h => ?_
      cases hholds.symm.trans h.holds

/-! Taking the lock. -/

/-- The handle takes the lock for held by another. -/
inductive IsShutOut (disk : Disk) (vault : Vault) : Prop where
  /-- The lock file, or what it is a link to, is young enough. -/
  | young {age : Int} (dated : disk.age vault.lockFile = .ok age) (young : age < vault.staleAfter)
  /-- The lock file is a link that leads nowhere. -/
  | dangling (leads : disk.LeadsNowhere vault.lockFile)
  /-- An entry that is no folder is in the way of the folder. -/
  | barred (barred : disk.IsBarred vault.folder)

/-- The lock file is new, and holds what this program puts there. -/
structure HasNewLock (disk : Disk) (vault : Vault) : Prop where
  payload : disk.readFile vault.lockFile = .ok lockPayload
  new : disk.age vault.lockFile = .ok 0

/-- How it ends to take the lock. -/
inductive Acquires (disk : Disk) (vault : Vault) : Disk × Except Fault Vault → Prop where
  /-- The lock counts as held, and nothing is changed. -/
  | locked (shut : IsShutOut disk vault) : Acquires disk vault (disk, .error .snapshotLocked)
  /-- The lock file cannot be made, or what is there cannot be looked at or removed. -/
  | refused {made : Disk} {r : Disk.Refusal} (clear : ¬ IsShutOut disk vault) :
      Acquires disk vault (made, .error (.cannotLock vault.lockFile r))
  /-- The handle has a new lock file. -/
  | taken {made : Disk} (clear : ¬ IsShutOut disk vault) (lock : HasNewLock made vault) :
      Acquires disk vault (made, .ok vault.opened)

/-- A handle whose folder is free is shut out by a young lock file, or by a link that leads nowhere.
-/
theorem IsShutOut.cases (h : IsShutOut disk vault) (hfree : ¬ disk.IsBarred vault.folder) :
    disk.holds vault.lockFile = true ∧
      ((∃ age, disk.age vault.lockFile = .ok age ∧ age < vault.staleAfter) ∨
        disk.LeadsNowhere vault.lockFile) := by
  cases h with
  | young dated young => exact ⟨Disk.holds_of_age dated, .inl ⟨_, dated, young⟩⟩
  | dangling leads => exact ⟨leads.holds, .inr leads⟩
  | barred barred => exact (hfree barred).elim

/-- Where something stands at the lock file, the folder is there. -/
theorem isFolder_of_holds_lockFile (h : disk.holds vault.lockFile = true) :
    disk.isFolder vault.folder = true := by
  cases hfind : disk.find false vault.lockFile with
  | ok place => exact isFolder_of_find_lockFile hfind
  | error r => cases h.symm.trans (Disk.holds_of_refused hfind)

/-- Once the folder is provided, the lock counts as held if it did before. -/
theorem isShutOut_iff_of_provides (hsound : made.IsSound) (hfree : ¬ disk.IsBarred vault.folder)
    (hprovides : disk.Provides made vault.folder)
    (hmade : disk.ensureFolder vault.folder = (made, .ok ())) :
    IsShutOut disk vault ↔
      createLock made vault.lockFile vault.staleAfter = .error .snapshotLocked := by
  by_cases hthere : disk.isFolder vault.folder = true
  · obtain rfl : disk = made :=
      congrArg Prod.fst ((Disk.ensureFolder_of_isFolder hthere).symm.trans hmade)
    rw [createLock_locked_iff hsound]
    constructor
    · exact fun hshut => (hshut.cases hfree).2
    · rintro (⟨age, hage, hyoung⟩ | hleads)
      · exact .young hage hyoung
      · exact .dangling hleads
  · have hbare : made.IsBareFolder vault.folder := by
      rcases hprovides with ⟨-, hold⟩ | hbare
      · exact (hthere hold).elim
      · exact hbare
    have hclear : made.holds vault.lockFile = false := hbare.not_holds_child (by decide)
    refine iff_of_false (fun hshut => hthere ?_) (createLock_of_clear hclear)
    exact isFolder_of_holds_lockFile (hshut.cases hfree).1

/-- **Taking the lock.**  On a sound disk it ends in one of the three ways. -/
theorem acquires (hsound : disk.IsSound) (hstraight : disk.IsStraight vault.base) :
    Acquires disk vault (vault.acquire disk) := by
  have hmakes := Disk.makes_ensureFolder hsound
    (hstraight.child (by decide : "hyperlog" ≠ ".."))
  unfold acquire
  cases hensure : disk.ensureFolder vault.folder with
  | mk made result =>
    have hmade : made.IsSound := hsound.ensureFolder hensure
    rw [← folder, hensure] at hmakes
    cases hmakes with
    | barred hbarred hcode =>
      simp only [if_pos hcode]
      exact .locked (.barred hbarred)
    | refused hfree hcode =>
      simp only [if_neg hcode]
      refine .refused fun hshut => ?_
      have hthere := isFolder_of_holds_lockFile (hshut.cases hfree).1
      cases (Disk.ensureFolder_of_isFolder hthere).symm.trans hensure
    | provided hfree hprovides =>
      have hshut := isShutOut_iff_of_provides hmade hfree hprovides hensure
      simp only
      rcases createLock_cases made vault.lockFile vault.staleAfter with
        ⟨disk', hcreate, -⟩ | hlocked | ⟨r, hrefused⟩
      · obtain ⟨before, hfile⟩ := createFile_of_createLock hcreate
        simp only [hcreate]
        refine .taken (fun h => ?_)
          ⟨Disk.readFile_of_createFile hfile, Disk.age_of_createFile hfile⟩
        cases hcreate.symm.trans (hshut.1 h)
      · have hthere := isFolder_of_holds_lockFile ((hshut.2 hlocked).cases hfree).1
        obtain rfl : disk = made :=
          congrArg Prod.fst ((Disk.ensureFolder_of_isFolder hthere).symm.trans hensure)
        simp only [hlocked]
        exact .locked (hshut.2 hlocked)
      · simp only [hrefused]
        refine .refused fun h => ?_
        cases hrefused.symm.trans (hshut.1 h)

/-- A lock file that is a file, and no link to one, and that is too old. -/
structure HasStaleFile (disk : Disk) (vault : Vault) : Prop where
  file : ∃ place bytes, disk.find false vault.lockFile = .ok place ∧
    disk.entry? place = some (.file bytes)
  stale : ∃ age, disk.age vault.lockFile = .ok age ∧ vault.staleAfter ≤ age

/-- A lock file that is too old is replaced. -/
theorem acquire_of_stale (hsound : disk.IsSound) (h : HasStaleFile disk vault) :
    ∃ made, vault.acquire disk = (made, .ok vault.opened) := by
  obtain ⟨place, bytes, hfind, hfile⟩ := h.file
  obtain ⟨age, hage, hstale⟩ := h.stale
  have hensure := Disk.ensureFolder_of_isFolder (isFolder_of_find_lockFile hfind)
  have hcreate : disk.createFile vault.lockFile lockPayload = .error ⟨.exists, vault.lockFile⟩ :=
    Disk.create_of_holds (Disk.holds_of_age hage) _
  have hlock : ¬ Disk.LeadsOn (disk.entry? place) := by
    rw [hfile]
    exact Disk.not_leadsOn_iff.2 (by simp)
  obtain ⟨cleared, hremove, hclears⟩ := hsound.removeFileIfPresent hfind hlock
  have hthere := hclears.sameWays.find_eq_ok_iff.2 hfind
  have hagain : cleared.createFile vault.lockFile lockPayload =
      .ok (cleared.add place (.file lockPayload)) := Disk.create_of_none hthere hclears.entry _
  have htake : takeOver disk vault.lockFile = .ok (cleared.add place (.file lockPayload)) := by
    simp only [takeOver, hremove, hagain]
  refine ⟨cleared.add place (.file lockPayload), ?_⟩
  simp [acquire, hensure, createLock, hcreate, hage, Int.not_lt.2 hstale, htake, opened]

/-! Loading. -/

/-- What is read never says that the snapshot is locked. -/
theorem readGraph_not_locked : vault.readGraph disk ≠ .error (.fault .snapshotLocked) := by
  intro h
  rcases kind_of_readGraph h with hkind | ⟨hkind, -⟩
  · cases hkind
  · cases hkind

/-- A load that gets no lock ends in that fault and leaves the handle as it was. -/
theorem load_of_refused (hfree : vault.isLocked = false) (hobstacle : vault.obstacle? disk = none)
    {fault : Fault} (h : vault.acquire disk = (made, .error fault)) :
    vault.load disk = ⟨made, vault, .error (.fault fault)⟩ := by
  have hguard : vault.guard? = none := by simpa [isLocked] using hfree
  simp only [load, hguard, hobstacle, h]

/-- A load that gets the lock reads the graph. -/
theorem load_of_acquire (hfree : vault.isLocked = false) (hobstacle : vault.obstacle? disk = none)
    (h : vault.acquire disk = (made, .ok vault.opened)) :
    vault.load disk = ⟨made, vault.opened, vault.readGraph made⟩ := by
  have hguard : vault.guard? = none := by simpa [isLocked] using hfree
  simp only [load, hguard, hobstacle, h]
  rfl

/-- A load replaces a lock file that is too old. -/
theorem load_of_stale (hsound : disk.IsSound) (hstraight : disk.IsStraight vault.base)
    (hfree : vault.isLocked = false) (hobstacle : vault.obstacle? disk = none)
    (h : HasStaleFile disk vault) :
    (vault.load disk).vault = vault.opened ∧ HasNewLock (vault.load disk).disk vault := by
  obtain ⟨made, hacquire⟩ := acquire_of_stale hsound h
  have hacquires := acquires hsound hstraight
  rw [hacquire] at hacquires
  rw [load_of_acquire hfree hobstacle hacquire]
  cases hacquires with
  | taken clear lock => exact ⟨rfl, lock⟩

/-- **When a load says that the snapshot is locked.**  A handle without the lock says so exactly if
its lock file is young enough, or is a link that leads nowhere, or if an entry that is no folder is
in the way of its folder; and it changes nothing then.  In any other case in which the system can be
asked at all, the handle says that it cannot take the lock, or it has a new lock file and comes to
what is read; it says so if that cannot be read.  A lock file that is too old is always replaced. -/
theorem load_locked_iff (hsound : disk.IsSound) (hstraight : disk.IsStraight vault.base)
    (hfree : vault.isLocked = false) :
    let loaded := vault.load disk
    (loaded.result = .error (.fault .snapshotLocked) ↔
      vault.obstacle? disk = none ∧ IsShutOut disk vault) ∧
    (loaded.result = .error (.fault .snapshotLocked) →
      loaded.disk = disk ∧ loaded.vault = vault) ∧
    (vault.obstacle? disk = none → ¬ IsShutOut disk vault →
      (loaded.vault = vault ∧
          ∃ r, loaded.result = .error (.fault (.cannotLock vault.lockFile r))) ∨
        (loaded.vault = vault.opened ∧ HasNewLock loaded.disk vault ∧
          loaded.result = vault.readGraph loaded.disk ∧
          ∀ r, loaded.disk.readFile vault.stateFile = .error r → r.code ≠ .notFound →
            loaded.result = .error (.fault (.cannotRead vault.stateFile r)))) ∧
    (vault.obstacle? disk = none → HasStaleFile disk vault →
      loaded.vault = vault.opened ∧ HasNewLock loaded.disk vault) ∧
    (disk.isFolder vault.base.parent = true →
      vault.folder.text.utf8ByteSize ≤ Disk.maxText →
      (disk.IsBarred vault.folder ↔ disk.LeadsNowhere vault.base ∨
        disk.holds vault.folder = true ∧ disk.isFolder vault.folder = false)) := by
  intro loaded
  have hacquires := acquires hsound hstraight
  have hstale := load_of_stale hsound hstraight hfree
  have hbarred (hparent : disk.isFolder vault.base.parent = true)
      (hshort : vault.folder.text.utf8ByteSize ≤ Disk.maxText) :=
    @Disk.isBarred_child_iff disk vault.base hparent "hyperlog" hshort
  cases hobstacle : vault.obstacle? disk with
  | some mishap =>
    have hguard : vault.guard? = none := by simpa [isLocked] using hfree
    have hloaded : loaded = ⟨disk, vault, .error (.mishap mishap)⟩ := by
      simp only [loaded, load, hguard, hobstacle]
    exact ⟨by simp [hloaded], by simp [hloaded], by simp, by simp, hbarred⟩
  | none =>
    generalize hacquire : vault.acquire disk = acquired at hacquires
    cases hacquires with
    | locked shut =>
      have hloaded : loaded = ⟨disk, vault, .error (.fault .snapshotLocked)⟩ :=
        load_of_refused hfree hobstacle hacquire
      exact ⟨by simp [hloaded, shut], by simp [hloaded], fun _ clear => (clear shut).elim,
        fun _ => hstale hobstacle, hbarred⟩
    | @refused made r clear =>
      have hloaded : loaded = ⟨made, vault, .error (.fault (.cannotLock vault.lockFile r))⟩ :=
        load_of_refused hfree hobstacle hacquire
      refine ⟨by simp [hloaded, clear], by simp [hloaded], fun _ _ => .inl ?_,
        fun _ => hstale hobstacle, hbarred⟩
      rw [hloaded]
      exact ⟨rfl, r, rfl⟩
    | @taken made clear lock =>
      have hloaded : loaded = ⟨made, vault.opened, vault.readGraph made⟩ :=
        load_of_acquire hfree hobstacle hacquire
      refine ⟨by simp [hloaded, clear, readGraph_not_locked], by simp [hloaded, readGraph_not_locked],
        fun _ _ => .inr ?_, fun _ => hstale hobstacle, hbarred⟩
      rw [hloaded]
      refine ⟨rfl, lock, rfl, fun r hread hcode => ?_⟩
      rw [readGraph_of_refused hread, if_neg hcode]

/-- A disk with a file in the place of the folder. -/
def fileForFolder : Disk := ⟨0, [(⟨.root, ["hyperlog"]⟩, .file [], 0)]⟩

/-- A disk with a file in place of a folder is sound. -/
theorem isSound_fileForFolder : fileForFolder.IsSound := by
  have hcreate : Disk.empty.createFile ⟨.root, ["hyperlog"]⟩ [] = .ok fileForFolder := rfl
  exact Disk.isSound_empty.create hcreate

/-- A file in the place of the folder counts as a lock. -/
theorem load_locked_iff_fileForFolder :
    let vault : Vault := ⟨⟨.root, []⟩, 60, none⟩
    fileForFolder.IsSound ∧ fileForFolder.IsStraight vault.base ∧ vault.isLocked = false ∧
      (vault.load fileForFolder).result = .error (.fault .snapshotLocked) := by
  intro vault
  have hstraight : fileForFolder.IsStraight vault.base :=
    Disk.isStraight_of_parent (Disk.isFolder_anchor rfl)
  have hobstacle : vault.obstacle? fileForFolder = none := by decide +kernel
  have hholds : fileForFolder.holds vault.folder = true := by decide +kernel
  have hother : fileForFolder.isFolder vault.folder = false := by decide +kernel
  obtain ⟨hlocked, -⟩ := load_locked_iff isSound_fileForFolder hstraight rfl
  exact ⟨isSound_fileForFolder, hstraight, rfl,
    hlocked.2 ⟨hobstacle, .barred (.held hholds hother)⟩⟩

/-- A disk with a link in the place of the lock file, which leads nowhere and is a day old. -/
def danglingLock : Disk :=
  ⟨86400, [(⟨.root, ["hyperlog"]⟩, .folder, 0),
    (⟨.root, ["hyperlog", "graph.lock"]⟩, .link ⟨.here, ["gone"]⟩, 0)]⟩

/-- **Locks that no one holds.**  A load says that the snapshot is locked where there is no lock
file, and where there is only an old link to none. -/
theorem locked_without_lock :
    let vault : Vault := ⟨⟨.root, []⟩, 60, none⟩
    (vault.load fileForFolder).result = .error (.fault .snapshotLocked) ∧
    fileForFolder.holds vault.lockFile = false ∧
    (vault.load danglingLock).result = .error (.fault .snapshotLocked) ∧
    ∀ age, danglingLock.age vault.lockFile ≠ .ok age := by
  intro vault
  refine ⟨rfl, by decide +kernel, rfl, ?_⟩
  intro age hage
  have hnone : danglingLock.age vault.lockFile = .error ⟨.notFound, vault.lockFile⟩ := by
    decide +kernel
  cases hnone.symm.trans hage

end Vault

end TaskTree
