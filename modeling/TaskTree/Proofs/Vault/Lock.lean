import TaskTree.Proofs.Disk.Sound
import TaskTree.Proofs.Vault

/-!
# What a handle does to the lock

A handle can be used if its folder is there or can be made, and if its lock file and its snapshot
are kept at places of their own (`IsUsable`).  A load by a handle without the lock then has two
ends only (`IsUsable.load_cases`): a lock file that is young enough refuses it, and in any other
case the handle gets the lock.  A release removes the lock file (`IsUsable.unlock`), and nothing
else that a handle does touches it.
-/

namespace TaskTree

namespace Vault

variable {disk disk' made : Disk} {vault : Vault} {place : Location}

/-- The handle once it has the lock of its folder. -/
def opened (vault : Vault) : Vault :=
  { vault with guard? := some vault.lockFile }

/-- The lock file stands at a place, or could.  Nothing leads on from there, and the snapshot is
not kept there. -/
structure IsSettled (disk : Disk) (vault : Vault) (place : Location) : Prop where
  named : vault.base.hasNull = false
  sound : disk.IsSound
  found : disk.find false vault.lockFile = .ok place
  lock : ¬ Disk.LeadsOn (disk.entry? place)
  apart : disk.find true vault.stateFile ≠ .ok place

/-- The folder of the snapshot is on the disk `made`, once it was asked for. -/
structure Reaches (disk : Disk) (vault : Vault) (made : Disk) (place : Location) : Prop where
  obstacle : vault.obstacle? disk = none
  folder : disk.ensureFolder vault.folder = (made, .ok ())
  settled : IsSettled made vault place

/-- The handle can be used.  A lock file does not turn up by making folders. -/
def IsUsable (disk : Disk) (vault : Vault) : Prop :=
  ∃ made place, Reaches disk vault made place ∧
    ((made.entry? place).isSome = true → made = disk)

/-! Disks with the folder of the snapshot. -/

/-- A settled place stays settled where the ways of the disk do not change. -/
theorem IsSettled.change (h : IsSettled disk vault place) (hsame : Disk.SameWays disk disk')
    (hsound : disk'.IsSound) : IsSettled disk' vault place where
  named := h.named
  sound := hsound
  found := hsame.find_eq_ok_iff.2 h.found
  lock := fun hleads => h.lock (hsame.leadsOn_iff.1 hleads)
  apart := fun hfind => h.apart (hsame.find_eq_ok_iff.1 hfind)

/-- The folder of a lock file that can be found is there. -/
theorem isFolder_of_find_lockFile {follow : Bool}
    (h : disk.find follow vault.lockFile = .ok place) : disk.isFolder vault.folder = true :=
  Disk.isFolder_of_find h

/-- The folder of a settled place is ready. -/
theorem IsSettled.isReady (h : IsSettled disk vault place) : IsReady disk vault :=
  ⟨h.named, isFolder_of_find_lockFile h.found⟩

/-- A handle whose place is settled reaches it without making a folder. -/
theorem IsSettled.reaches (h : IsSettled disk vault place) : Reaches disk vault disk place :=
  ⟨h.isReady.obstacle?_eq_none, Disk.ensureFolder_of_isFolder h.isReady.folder, h⟩

/-- A handle whose place is settled can be used. -/
theorem IsSettled.isUsable (h : IsSettled disk vault place) : IsUsable disk vault :=
  ⟨disk, place, h.reaches, fun _ => rfl⟩

/-- The lock file is there exactly when something stands at its place. -/
theorem IsSettled.holds_eq (h : IsSettled disk vault place) :
    disk.holds vault.lockFile = (disk.entry? place).isSome := by
  rw [Disk.holds, h.found]

/-- If the lock file can be found, no folder is missing. -/
theorem Reaches.eq_of_find {found : Location} (h : Reaches disk vault made place)
    (hfind : disk.find false vault.lockFile = .ok found) : made = disk := by
  have hthere := Disk.ensureFolder_of_isFolder (isFolder_of_find_lockFile hfind)
  rw [h.folder] at hthere
  exact congrArg Prod.fst hthere

/-- The lock file is where it would be after the folders were made. -/
theorem Reaches.holds_eq (h : Reaches disk vault made place)
    (hlock : (made.entry? place).isSome = true → made = disk) :
    disk.holds vault.lockFile = (made.entry? place).isSome := by
  cases hfind : disk.find false vault.lockFile with
  | ok found =>
    obtain rfl := h.eq_of_find hfind
    exact h.settled.holds_eq
  | error r =>
    have hnone : made.entry? place = none := by
      cases hentry : made.entry? place with
      | none => rfl
      | some e =>
        obtain rfl := hlock (by rw [hentry]; rfl)
        rw [h.settled.found] at hfind
        cases hfind
    rw [Disk.holds, hfind, hnone]
    rfl

/-- A handle can be used on a sound disk if its folder can be made, there is no lock file in it,
and the snapshot is not kept where that would be. -/
theorem isUsable_of_noLock (hsound : disk.IsSound) (hobstacle : vault.obstacle? disk = none)
    (hfolder : disk.ensureFolder vault.folder = (made, .ok ()))
    (hfound : made.find false vault.lockFile = .ok place) (hnone : made.entry? place = none)
    (hapart : made.find true vault.stateFile ≠ .ok place) :
    IsUsable disk vault ∧ disk.holds vault.lockFile = false := by
  have hlock : ¬ Disk.LeadsOn (made.entry? place) := hnone ▸ Disk.not_leadsOn_iff.2 (by simp)
  have hreaches : Reaches disk vault made place :=
    ⟨hobstacle, hfolder, hasNull_of_obstacle? hobstacle, hsound.ensureFolder hfolder, hfound, hlock,
      hapart⟩
  have hmade : (made.entry? place).isSome = true → made = disk := by
    intro hsome
    rw [hnone] at hsome
    cases hsome
  refine ⟨⟨made, place, hreaches, hmade⟩, ?_⟩
  rw [hreaches.holds_eq hmade, hnone]
  rfl

/-! Creating, dating and removing the lock file. -/

/-- At an empty settled place the lock file can be created. -/
theorem IsSettled.createFile (h : IsSettled disk vault place) (hnone : disk.entry? place = none) :
    ∃ disk', disk.createFile vault.lockFile lockPayload = .ok disk' ∧
      IsSettled disk' vault place ∧ disk'.entry? place = some (.file lockPayload) := by
  have hcreate : disk.createFile vault.lockFile lockPayload =
      .ok (disk.add place (.file lockPayload)) := Disk.create_of_none h.found hnone _
  obtain ⟨place', hfind, hputs⟩ := Disk.puts_of_createFile hcreate
  obtain rfl : place' = place := Except.ok.inj (hfind.symm.trans h.found)
  have hsound := hputs.isSound h.sound (Disk.entry?_parent_of_find hfind)
  exact ⟨_, hcreate, h.change hputs.sameWays hsound, hputs.entry⟩

/-- At a taken place the lock file cannot be created. -/
theorem IsSettled.createFile_refused (h : IsSettled disk vault place)
    (hsome : (disk.entry? place).isSome = true) :
    disk.createFile vault.lockFile lockPayload = .error ⟨.exists, vault.lockFile⟩ :=
  Disk.create_of_holds (h.holds_eq.trans hsome) _

/-- A lock file that is there has an age. -/
theorem IsSettled.age (h : IsSettled disk vault place)
    (hsome : (disk.entry? place).isSome = true) : ∃ age, disk.age vault.lockFile = .ok age := by
  have hfind := Disk.find_of_not_leadsOn h.found h.lock
  rw [Disk.entry?, Option.isSome_map] at hsome
  obtain ⟨⟨e, time⟩, hstamped⟩ := Option.isSome_iff_exists.1 hsome
  refine ⟨disk.now - time, ?_⟩
  simp only [Disk.age, hfind, Except.map, hstamped]

/-- The lock file of a settled place can be removed. -/
theorem IsSettled.removeFile (h : IsSettled disk vault place) :
    ∃ disk', disk.removeFileIfPresent vault.lockFile = .ok disk' ∧
      IsSettled disk' vault place ∧ disk'.entry? place = none := by
  obtain ⟨disk', hremove, hclears⟩ := h.sound.removeFileIfPresent h.found h.lock
  exact ⟨disk', hremove, h.change hclears.sameWays (hclears.isSound h.sound), hclears.entry⟩

/-- The lock file of a settled place can be taken over. -/
theorem IsSettled.takeOver (h : IsSettled disk vault place) :
    ∃ disk', takeOver disk vault.lockFile = .ok disk' ∧ IsSettled disk' vault place ∧
      disk'.entry? place = some (.file lockPayload) := by
  obtain ⟨cleared, hremove, hcleared, hnone⟩ := h.removeFile
  obtain ⟨disk', hcreate, hsettled, hentry⟩ := hcleared.createFile hnone
  refine ⟨disk', ?_, hsettled, hentry⟩
  simp only [Vault.takeOver, hremove, hcreate]

/-- A lock file that is young enough is respected.  In any other case there is a new one. -/
theorem IsSettled.createLock_cases (h : IsSettled disk vault place) :
    ((disk.entry? place).isSome = true ∧
        (∃ age, disk.age vault.lockFile = .ok age ∧ age < vault.staleAfter) ∧
        createLock disk vault.lockFile vault.staleAfter = .error .snapshotLocked) ∨
      ((disk.entry? place = none ∨
          ∃ age, disk.age vault.lockFile = .ok age ∧ vault.staleAfter ≤ age) ∧
        ∃ disk', createLock disk vault.lockFile vault.staleAfter = .ok disk' ∧
          IsSettled disk' vault place ∧ disk'.entry? place = some (.file lockPayload)) := by
  cases hentry : disk.entry? place with
  | none =>
    obtain ⟨disk', hcreate, hsettled, hlock⟩ := h.createFile hentry
    exact .inr ⟨.inl rfl, disk', by simp only [createLock, hcreate], hsettled, hlock⟩
  | some e =>
    have hsome : (disk.entry? place).isSome = true := by
      rw [hentry]
      rfl
    have hrefused := h.createFile_refused hsome
    obtain ⟨age, hage⟩ := h.age hsome
    by_cases hyoung : age < vault.staleAfter
    · refine .inl ⟨rfl, ⟨age, hage, hyoung⟩, ?_⟩
      simp [createLock, hrefused, hage, hyoung]
    · obtain ⟨disk', htake, hsettled, hlock⟩ := h.takeOver
      refine .inr ⟨.inr ⟨age, hage, Int.not_lt.1 hyoung⟩, disk', ?_, hsettled, hlock⟩
      simp [createLock, hrefused, hage, hyoung, htake]

/-! Loading, storing and releasing. -/

/-- A handle with the lock reads the snapshot and does nothing else. -/
theorem IsUsable.load_of_isLocked (h : IsUsable disk vault) (hlocked : vault.isLocked = true) :
    vault.load disk = ⟨disk, vault, vault.readGraph disk⟩ := by
  obtain ⟨made, place, hreaches, -⟩ := h
  obtain ⟨lock, hguard⟩ := Option.isSome_iff_exists.1 hlocked
  have hnull : ¬ vault.base.hasNull = true := by simp [hreaches.settled.named]
  simp only [load, hguard, if_neg hnull]

/-- A load leaves a locked handle as it is. -/
theorem vault_load_of_isLocked (hlocked : vault.isLocked = true) :
    (vault.load disk).vault = vault := by
  obtain ⟨lock, hguard⟩ := Option.isSome_iff_exists.1 hlocked
  simp only [load, hguard]
  split
  · rfl
  · rfl

/-- **Loads without the lock.**  A lock file that is young enough refuses the load, which changes
nothing.  In any other case the handle has the lock afterwards, whatever the snapshot is. -/
theorem IsUsable.load_cases (h : IsUsable disk vault) (hfree : vault.isLocked = false) :
    (disk.holds vault.lockFile = true ∧
        (∃ age, disk.age vault.lockFile = .ok age ∧ age < vault.staleAfter) ∧
        vault.load disk = ⟨disk, vault, .error (.fault .snapshotLocked)⟩) ∨
      ((disk.holds vault.lockFile = false ∨
          ∃ age, disk.age vault.lockFile = .ok age ∧ vault.staleAfter ≤ age) ∧
        ∃ disk', vault.load disk =
            ⟨disk', { vault with guard? := some vault.lockFile }, vault.readGraph disk'⟩ ∧
          IsUsable disk' vault ∧ disk'.holds vault.lockFile = true) := by
  obtain ⟨made, place, hreaches, hlock⟩ := h
  have hguard : vault.guard? = none := by simpa [isLocked] using hfree
  have hholds := hreaches.holds_eq hlock
  rcases hreaches.settled.createLock_cases with
    ⟨hsome, hyoung, hrefused⟩ | ⟨hopen, disk', hcreate, hsettled, hentry⟩
  · obtain rfl := hlock hsome
    refine .inl ⟨hholds.trans hsome, hyoung, ?_⟩
    simp [load, hguard, hreaches.obstacle, acquire, hreaches.folder, hrefused]
  · refine .inr ⟨?_, disk', ?_, hsettled.isUsable, ?_⟩
    · rcases hopen with hnone | ⟨age, hage, hold⟩
      · rw [hholds, hnone]
        exact .inl rfl
      · cases hsome : (made.entry? place).isSome with
        | false => exact .inl (hholds.trans hsome)
        | true =>
          obtain rfl := hlock hsome
          exact .inr ⟨age, hage, hold⟩
    · simp only [load, hguard, hreaches.obstacle, acquire, hreaches.folder, hcreate]
      rfl
    · rw [hsettled.holds_eq, hentry]
      rfl

/-- A handle without the lock has nothing to release. -/
theorem unlock_of_free (disk : Disk) (hfree : vault.isLocked = false) :
    vault.unlock disk = (disk, vault) := by
  have hguard : vault.guard? = none := by simpa [isLocked] using hfree
  simp only [Vault.unlock, hguard]

/-- A release removes the lock file, whoever has put it there. -/
theorem IsUsable.unlock (h : IsUsable disk vault) (hguard : vault.guard? = some vault.lockFile) :
    ∃ disk', vault.unlock disk = (disk', { vault with guard? := none }) ∧
      IsUsable disk' vault ∧ disk'.holds vault.lockFile = false := by
  cases hfind : disk.find false vault.lockFile with
  | ok found =>
    obtain ⟨made, place, hreaches, -⟩ := h
    obtain rfl := hreaches.eq_of_find hfind
    obtain ⟨disk', hremove, hsettled, hnone⟩ := hreaches.settled.removeFile
    refine ⟨disk', by simp only [Vault.unlock, hguard, hremove], hsettled.isUsable, ?_⟩
    rw [hsettled.holds_eq, hnone]
    rfl
  | error r =>
    have hkept : ∀ disk', disk.removeFileIfPresent vault.lockFile = .ok disk' → disk' = disk := by
      intro disk' hremove
      simp only [Disk.removeFileIfPresent, Disk.removeFile, hfind] at hremove
      split at hremove
      · exact (Except.ok.inj hremove).symm
      · cases hremove
    refine ⟨disk, ?_, h, by rw [Disk.holds, hfind]⟩
    simp only [Vault.unlock, hguard]
    split
    · next hremove => rw [hkept _ hremove]
    · rfl

/-- To store a graph does not touch the lock file. -/
theorem IsUsable.store (h : IsUsable disk vault) (graph : Graph) (refused? : Option Disk.Refusal) :
    IsUsable (vault.store disk graph refused?).1 vault ∧
      (vault.store disk graph refused?).1.holds vault.lockFile =
        disk.holds vault.lockFile := by
  obtain ⟨made, place, hreaches, hlock⟩ := h
  have hsettled := hreaches.settled
  have hsame : vault.store disk graph refused? = vault.store made graph refused? := by
    have hmade := hsettled.reaches
    simp only [Vault.store, hreaches.obstacle, hreaches.folder, hmade.obstacle, hmade.folder]
  rw [hsame, hreaches.holds_eq hlock]
  rcases hsettled.isReady.store graph refused? with ⟨-, disk', hstore, hwrite⟩ | ⟨r, hstore⟩
  · obtain ⟨written, e, hfind, -, hputs⟩ := Disk.puts_of_writeFile hwrite
    have hchange := hsettled.change hputs.sameWays
      (hputs.isSound hsettled.sound (Disk.entry?_parent_of_find hfind))
    have hne : place ≠ written := by
      intro heq
      exact hsettled.apart (heq ▸ hfind)
    rw [hstore]
    refine ⟨hchange.isUsable, ?_⟩
    rw [hchange.holds_eq, hputs.entries, if_neg hne]
  · rw [hstore]
    exact ⟨hsettled.isUsable, hsettled.holds_eq⟩

/-- To wait does not touch the lock file. -/
theorem IsUsable.wait (h : IsUsable disk vault) (seconds : Int) :
    IsUsable (disk.wait seconds) vault ∧
      (disk.wait seconds).holds vault.lockFile = disk.holds vault.lockFile := by
  obtain ⟨made, place, hreaches, hlock⟩ := h
  have hsame := Disk.sameEntries_wait disk seconds
  obtain ⟨made', hmade', hsame'⟩ := hsame.ensureFolder hreaches.folder
  have hsettled := hreaches.settled.change hsame'.sameWays (hsame'.isSound hreaches.settled.sound)
  have hobstacle : vault.obstacle? (disk.wait seconds) = none := by
    have hthere := hreaches.obstacle
    simp only [obstacle?, hsame.isTooFar] at hthere ⊢
    exact hthere
  have hreaches' : Reaches (disk.wait seconds) vault made' place := ⟨hobstacle, hmade', hsettled⟩
  have hlock' : (made'.entry? place).isSome = true → made' = disk.wait seconds := by
    intro hsome
    rw [hsame' place] at hsome
    obtain rfl := hlock hsome
    exact hreaches'.eq_of_find (hsame.sameWays.find_eq_ok_iff.2 hreaches.settled.found)
  refine ⟨⟨made', place, hreaches', hlock'⟩, ?_⟩
  rw [hreaches'.holds_eq hlock', hreaches.holds_eq hlock, hsame' place]

end Vault

end TaskTree
