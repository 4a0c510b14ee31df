import TaskTree.Proofs.Vault.Exclusion

/-!
# Handles that look elsewhere

A handle can be told to look below another base folder at any time.  Its guard stays what it was,
so a handle that is told so while it is locked keeps the lock of the folder it came from, and reads
the other folder without one (`read_without_lock`).

What holds over all runs in which no load comes upon a lock file that is too old, on any folders,
is that locked handles have lock files of their own, which are there (`IsApart`).  So a load that
returns is done under a lock that no other handle has, and this is the lock of the folder that was
read as long as the handle is told to look elsewhere only while it is not locked
(`loads_under_lock`).
-/

namespace TaskTree

namespace Disk

variable {disk disk' : Disk} {loc place : Location}

/-- A file stands at the place that a location means. -/
structure Shows (disk : Disk) (loc place : Location) : Prop where
  found : disk.find false loc = .ok place
  there : (disk.entry? place).isSome = true
  file : ¬ LeadsOn (disk.entry? place)

/-- A location means one place. -/
theorem Shows.unique (h : Shows disk loc place) {other : Location} (h' : Shows disk loc other) :
    place = other :=
  Except.ok.inj (h.found.symm.trans h'.found)

/-- What is there stays there while the disk grows. -/
theorem Shows.grow (h : Shows disk loc place) (hgrows : Grows disk disk') :
    Shows disk' loc place := by
  obtain ⟨e, he⟩ := Option.isSome_iff_exists.1 h.there
  have hsame : disk'.entry? place = disk.entry? place := (hgrows place e he).trans he.symm
  exact ⟨hgrows.find h.found h.there, hsame ▸ h.there, hsame ▸ h.file⟩

/-- What is there stays there when an entry is put somewhere. -/
theorem Shows.put (h : Shows disk loc place) {written : Location} {e : Entry}
    (hputs : Puts disk disk' written e) : Shows disk' loc place := by
  refine ⟨hputs.find h.found, ?_, fun hleads => h.file (hputs.sameWays.leadsOn_iff.1 hleads)⟩
  rw [hputs.entries]
  split
  · rfl
  · exact h.there

/-- A file that is put is there. -/
theorem Puts.shows {e : Entry} (h : Puts disk disk' place e)
    (hfind : disk.find false loc = .ok place) : Shows disk' loc place :=
  ⟨h.find hfind, by rw [h.entry]; rfl, by rw [h.entry]; exact h.after⟩

/-- What is there stays there when another place is cleared. -/
theorem Shows.clear (h : Shows disk loc place) {removed : Location}
    (hclears : Clears disk disk' removed) (hne : place ≠ removed) : Shows disk' loc place := by
  have hsame : disk'.entry? place = disk.entry? place := by rw [hclears.entries, if_neg hne]
  exact ⟨hclears.sameWays.find_eq_ok_iff.2 h.found, hsame ▸ h.there, hsame ▸ h.file⟩

/-- What is there stays there as time passes. -/
theorem Shows.wait (h : Shows disk loc place) (seconds : Int) :
    Shows (disk.wait seconds) loc place := by
  have hsame := sameEntries_wait disk seconds
  refine ⟨(hsame.find loc).trans h.found, ?_, ?_⟩
  · rw [hsame place]
    exact h.there
  · rw [hsame place]
    exact h.file

end Disk

namespace Vault

variable {disk disk' : Disk} {vault : Vault} {place : Location}

/-- A lock file that is created with none that is too old in the way is created where nothing
is. -/
theorem createFile_of_young {lock : Location} {staleAfter : Int}
    (h : createLock disk lock staleAfter = .ok disk')
    (hyoung : ∀ age, disk.age lock = .ok age → age < staleAfter) :
    disk.createFile lock lockPayload = .ok disk' := by
  rcases createLock_cases disk lock staleAfter with
    ⟨created, hcreated, hcreate | ⟨-, age, hage, hold⟩⟩ | hlocked | ⟨r, hrefused⟩
  · cases hcreated.symm.trans h
    exact hcreate
  · exact absurd (hyoung age hage) (Int.not_lt.2 hold)
  · cases hlocked.symm.trans h
  · cases hrefused.symm.trans h

/-- The folders on the way to a lock file have been made, and the file itself where nothing was. -/
def Locks (disk disk' : Disk) (lock place : Location) : Prop :=
  ∃ made, Disk.Grows disk made ∧ made.IsSound ∧ made.find false lock = .ok place ∧
    made.entry? place = none ∧ Disk.Puts made disk' place (.file lockPayload)

/-- **Loads that look for the lock**, where none is too old.  One that does not get it is refused
and takes nothing away.  Any other leaves the handle with a new lock file. -/
theorem load_of_free (hsound : disk.IsSound) (hfree : vault.isLocked = false)
    (hyoung : ∀ age, (disk.ensureFolder vault.folder).1.age vault.lockFile = .ok age →
      age < vault.staleAfter) :
    (∃ disk' failure, vault.load disk = ⟨disk', vault, .error failure⟩ ∧
        Disk.Grows disk disk' ∧ disk'.IsSound) ∨
      ∃ disk' place, vault.load disk = ⟨disk', vault.opened, vault.readGraph disk'⟩ ∧
        Locks disk disk' vault.lockFile place := by
  have hguard : vault.guard? = none := by simpa [isLocked] using hfree
  cases hobstacle : vault.obstacle? disk with
  | some mishap =>
    have hload : vault.load disk = ⟨disk, vault, .error (.mishap mishap)⟩ := by
      simp only [load, hguard, hobstacle]
    exact .inl ⟨_, _, hload, Disk.Grows.refl disk, hsound⟩
  | none =>
    cases hmake : disk.ensureFolder vault.folder with
    | mk made result =>
      rw [hmake] at hyoung
      have hgrows := Disk.grows_ensureFolder hmake
      have hmade := hsound.ensureFolder hmake
      cases result with
      | error r =>
        have hload : vault.load disk = ⟨made, vault, .error (.fault
            (if r.code = .exists then .snapshotLocked else .cannotLock vault.lockFile r))⟩ := by
          simp only [load, hguard, hobstacle, acquire, hmake]
        exact .inl ⟨_, _, hload, hgrows, hmade⟩
      | ok _ =>
        cases hlock : createLock made vault.lockFile vault.staleAfter with
        | error fault =>
          have hload : vault.load disk = ⟨made, vault, .error (.fault fault)⟩ := by
            simp only [load, hguard, hobstacle, acquire, hmake, hlock]
          exact .inl ⟨_, _, hload, hgrows, hmade⟩
        | ok disk' =>
          have hload : vault.load disk = ⟨disk', vault.opened, vault.readGraph disk'⟩ := by
            simp only [load, hguard, hobstacle, acquire, hmake, hlock]
            rfl
          have hcreate := createFile_of_young hlock hyoung
          obtain ⟨place, hfind, hnone, -⟩ := Disk.entry?_of_create hcreate
          obtain ⟨place', hfind', hputs⟩ := Disk.puts_of_createFile hcreate
          obtain rfl : place' = place := Except.ok.inj (hfind'.symm.trans hfind)
          exact .inr ⟨disk', place', hload, made, hgrows, hmade, hfind, hnone, hputs⟩

/-- The disk is sound once the lock file is made. -/
theorem Locks.isSound {lock : Location} (h : Locks disk disk' lock place) : disk'.IsSound := by
  obtain ⟨made, -, hsound, hfind, -, hputs⟩ := h
  exact hputs.isSound hsound (Disk.entry?_parent_of_find hfind)

/-- The lock file is there once it is made. -/
theorem Locks.shows {lock : Location} (h : Locks disk disk' lock place) :
    disk'.Shows lock place := by
  obtain ⟨made, -, -, hfind, -, hputs⟩ := h
  exact hputs.shows hfind

/-- Files that were there are there, and the lock file is none of them. -/
theorem Locks.keeps {lock loc other : Location} (h : Locks disk disk' lock place)
    (hshows : disk.Shows loc other) : disk'.Shows loc other ∧ other ≠ place := by
  obtain ⟨made, hgrows, -, -, hnone, hputs⟩ := h
  have hmade := hshows.grow hgrows
  refine ⟨hmade.put hputs, ?_⟩
  intro heq
  have hthere := hmade.there
  rw [heq, hnone] at hthere
  cases hthere

/-- A handle that is locked loads without a change, and reads the folder where it looks. -/
theorem load_of_locked (disk : Disk) (hlocked : vault.isLocked = true) :
    vault.load disk = ⟨disk, vault, .error (.mishap .nullInName)⟩ ∨
      vault.load disk = ⟨disk, vault, vault.readGraph disk⟩ := by
  obtain ⟨lock, hguard⟩ := Option.isSome_iff_exists.1 hlocked
  simp only [load, hguard]
  split
  · exact .inl rfl
  · exact .inr rfl

/-- A load leaves a handle as it was, or with the lock of the folder where it looks. -/
theorem vault_load (disk : Disk) (vault : Vault) :
    (vault.load disk).vault = vault ∨ (vault.load disk).vault = vault.opened := by
  unfold load
  split
  · split <;> exact .inl rfl
  · split
    · exact .inl rfl
    · split
      · exact .inl rfl
      · next hacquire =>
        obtain ⟨-, rfl⟩ := isFolder_of_acquire hacquire
        exact .inr rfl

/-- To store a graph takes no file away. -/
theorem store_shows (hsound : disk.IsSound) (vault : Vault) (graph : Graph)
    (refused? : Option Disk.Refusal) :
    (vault.store disk graph refused?).1.IsSound ∧ ∀ loc place, disk.Shows loc place →
      (vault.store disk graph refused?).1.Shows loc place := by
  unfold Vault.store
  cases vault.obstacle? disk with
  | some mishap => exact ⟨hsound, fun _ _ h => h⟩
  | none =>
    cases hmake : disk.ensureFolder vault.folder with
    | mk made result =>
      have hgrows := Disk.grows_ensureFolder hmake
      have hmade := hsound.ensureFolder hmake
      cases result with
      | error r => exact ⟨hmade, fun _ _ h => h.grow hgrows⟩
      | ok _ =>
        cases refused? with
        | some r => exact ⟨hmade, fun _ _ h => h.grow hgrows⟩
        | none =>
          cases hwrite : made.writeFile vault.stateFile (Utf8.encode graph.snapshot) with
          | error r =>
            simp only [hwrite]
            exact ⟨hmade, fun _ _ h => h.grow hgrows⟩
          | ok disk' =>
            simp only [hwrite]
            obtain ⟨written, e, hfind, -, hputs⟩ := Disk.puts_of_writeFile hwrite
            exact ⟨hputs.isSound hmade (Disk.entry?_parent_of_find hfind),
              fun _ _ h => (h.grow hgrows).put hputs⟩

/-- A handle whose lock file is there removes it, and no other file. -/
theorem unlock_of_shows (hsound : disk.IsSound) {lock : Location}
    (hguard : vault.guard? = some lock) (h : disk.Shows lock place) :
    ∃ disk', vault.unlock disk = (disk', { vault with guard? := none }) ∧ disk'.IsSound ∧
      Disk.Clears disk disk' place := by
  obtain ⟨disk', hremove, hclears⟩ := hsound.removeFileIfPresent h.found h.file
  refine ⟨disk', ?_, hclears.isSound hsound, hclears⟩
  simp only [Vault.unlock, hguard, hremove]

end Vault

namespace Handles

variable {ι : Type} {handles : Handles ι}

/-- The handle would come upon a lock file that is too old for it, once its folder is made. -/
def meetsStaleLock (handles : Handles ι) (i : ι) : Bool :=
  match (handles.disk.ensureFolder (handles.vault i).folder).1.age (handles.vault i).lockFile with
  | .ok age => !handles.isLocked i && (handles.vault i).staleAfter ≤ age
  | .error _ => false

/-- A load by a handle that is not locked and meets no lock file that is too old. -/
theorem load_cases (hsound : handles.disk.IsSound) {i : ι} (hfree : handles.isLocked i = false)
    (hyoung : handles.meetsStaleLock i = false) :
    (∃ disk' failure, handles.load i = ⟨disk', handles.vault i, .error failure⟩ ∧
        Disk.Grows handles.disk disk' ∧ disk'.IsSound) ∨
      ∃ disk' place, handles.load i =
          ⟨disk', (handles.vault i).opened, (handles.vault i).readGraph disk'⟩ ∧
        Vault.Locks handles.disk disk' (handles.vault i).lockFile place := by
  refine Vault.load_of_free hsound hfree ?_
  intro age hage
  simpa [meetsStaleLock, hage, hfree] using hyoung

/-- A handle that is not locked has no guard. -/
theorem guard?_of_free {i : ι} (hfree : handles.isLocked i = false) :
    (handles.vault i).guard? = none := by
  simpa [isLocked, Vault.isLocked] using hfree

/-! What locked handles have. -/

/-- Each locked handle has its lock file, and no two have one and the same. -/
structure IsApart (handles : Handles ι) : Prop where
  sound : handles.disk.IsSound
  held : ∀ i lock, (handles.vault i).guard? = some lock → ∃ place, handles.disk.Shows lock place
  apart : ∀ i j lock lock' place, (handles.vault i).guard? = some lock →
    (handles.vault j).guard? = some lock' → handles.disk.Shows lock place →
    handles.disk.Shows lock' place → i = j

/-- Handles that are not locked have nothing to share. -/
theorem isApart_of_free (hsound : handles.disk.IsSound)
    (hfree : ∀ i, handles.isLocked i = false) : IsApart handles where
  sound := hsound
  held := fun i lock hguard => by
    rw [guard?_of_free (hfree i)] at hguard
    cases hguard
  apart := fun i j lock lock' place hguard => by
    rw [guard?_of_free (hfree i)] at hguard
    cases hguard

/-- The handle looks where its lock is, if it has one. -/
def IsHome (handles : Handles ι) (i : ι) : Prop :=
  ∀ lock, (handles.vault i).guard? = some lock → lock = (handles.vault i).lockFile

/-- A handle that is not locked is home. -/
theorem isHome_of_free {i : ι} (hfree : handles.isLocked i = false) : IsHome handles i := by
  intro lock hguard
  rw [guard?_of_free hfree] at hguard
  cases hguard

/-- The disk has changed, and the lock files of all handles are where they were. -/
theorem IsApart.onDisk (h : IsApart handles) {disk' : Disk} (hsound : disk'.IsSound)
    (hkeeps : ∀ loc place, handles.disk.Shows loc place → disk'.Shows loc place) :
    IsApart ⟨disk', handles.vault⟩ where
  sound := hsound
  held := by
    intro i lock hguard
    obtain ⟨place, hshows⟩ := h.held i lock hguard
    exact ⟨place, hkeeps lock place hshows⟩
  apart := by
    intro i j lock lock' place hi hj hshows hshows'
    obtain ⟨before, hbefore⟩ := h.held i lock hi
    obtain ⟨before', hbefore'⟩ := h.held j lock' hj
    obtain rfl := hshows.unique (hkeeps lock before hbefore)
    obtain rfl := hshows'.unique (hkeeps lock' before' hbefore')
    exact h.apart i j lock lock' _ hi hj hbefore hbefore'

variable [DecidableEq ι]

/-- One handle has changed, and the disk with it.  The others have their lock files where they
were, and if it is locked, it has one that is none of theirs. -/
theorem IsApart.put (h : IsApart handles) {i : ι} {disk' : Disk} {vault' : Vault}
    (hsound : disk'.IsSound)
    (hothers : ∀ j lock place, j ≠ i → (handles.vault j).guard? = some lock →
      handles.disk.Shows lock place → disk'.Shows lock place)
    (hself : ∀ lock, vault'.guard? = some lock → ∃ place, disk'.Shows lock place ∧
      ∀ j lock', j ≠ i → (handles.vault j).guard? = some lock' → ¬ disk'.Shows lock' place) :
    IsApart (handles.put i disk' vault') where
  sound := hsound
  held := by
    intro j lock hguard
    by_cases hj : j = i
    · subst hj
      rw [vault_put_self] at hguard
      obtain ⟨place, hshows, -⟩ := hself lock hguard
      exact ⟨place, hshows⟩
    · rw [vault_put_of_ne hj] at hguard
      obtain ⟨place, hshows⟩ := h.held j lock hguard
      exact ⟨place, hothers j lock place hj hguard hshows⟩
  apart := by
    have hdiffer : ∀ j lock lock' place, j ≠ i → vault'.guard? = some lock →
        (handles.vault j).guard? = some lock' → disk'.Shows lock place →
        ¬ disk'.Shows lock' place := by
      intro j lock lock' place hj hi hguard hshows
      obtain ⟨own, hown, halone⟩ := hself lock hi
      obtain rfl := hshows.unique hown
      exact halone j lock' hj hguard
    intro j k lock lock' place hj hk hshows hshows'
    by_cases hji : j = i
    · subst hji
      rw [vault_put_self] at hj
      by_cases hki : k = j
      · exact hki.symm
      · rw [vault_put_of_ne hki] at hk
        exact (hdiffer k lock lock' place hki hj hk hshows hshows').elim
    · rw [vault_put_of_ne hji] at hj
      by_cases hki : k = i
      · subst hki
        rw [vault_put_self] at hk
        exact (hdiffer j lock' lock place hji hk hj hshows' hshows).elim
      · rw [vault_put_of_ne hki] at hk
        obtain ⟨before, hbefore⟩ := h.held j lock hj
        obtain ⟨before', hbefore'⟩ := h.held k lock' hk
        obtain rfl := hshows.unique (hothers j lock before hji hj hbefore)
        obtain rfl := hshows'.unique (hothers k lock' before' hki hk hbefore')
        exact h.apart j k lock lock' _ hj hk hbefore hbefore'

/-! Runs. -/

/-- What handles do that can be told to look elsewhere. -/
inductive Move (ι : Type) where
  | act (action : Action ι)
  | withBase (i : ι) (base : Location)

/-- The handles after a move. -/
def step (handles : Handles ι) : Move ι → Handles ι
  | .act action => handles.after action
  | .withBase i base => handles.put i handles.disk ((handles.vault i).withBase base)

/-- The handles after one move after another. -/
def go (handles : Handles ι) (moves : List (Move ι)) : Handles ι :=
  moves.foldl step handles

/-- No load comes upon a lock file that is too old. -/
def isYoung (handles : Handles ι) : List (Move ι) → Bool
  | [] => true
  | .act (.load i) :: rest =>
    !handles.meetsStaleLock i && (handles.step (.act (.load i))).isYoung rest
  | move :: rest => (handles.step move).isYoung rest

/-- A handle is told to look elsewhere only while it is not locked. -/
def isRebasedFree (i : ι) (handles : Handles ι) : List (Move ι) → Bool
  | [] => true
  | .withBase j base :: rest =>
    !(j == i && handles.isLocked j) && isRebasedFree i (handles.step (.withBase j base)) rest
  | move :: rest => isRebasedFree i (handles.step move) rest

/-- A load that gets the lock gets one that no handle had. -/
theorem IsApart.load (h : IsApart handles) {i : ι} (hyoung : handles.meetsStaleLock i = false) :
    IsApart (handles.after (.load i)) := by
  cases hi : handles.isLocked i with
  | true =>
    have hsame : handles.after (.load i) = handles := by
      rcases Vault.load_of_locked handles.disk hi with hload | hload
      · exact after_load_of_eq hload
      · exact after_load_of_eq hload
    rw [hsame]
    exact h
  | false =>
    have hguard := guard?_of_free hi
    rcases load_cases h.sound hi hyoung with
      ⟨disk', failure, hload, hgrows, hsound⟩ | ⟨disk', place, hload, hlocks⟩
    · simp only [after, hload]
      refine h.put hsound (fun _ _ _ _ _ hshows => hshows.grow hgrows) fun lock hlock => ?_
      cases hguard.symm.trans hlock
    · simp only [after, hload]
      refine h.put hlocks.isSound (fun _ _ _ _ _ hshows => (hlocks.keeps hshows).1) ?_
      intro lock hlock
      obtain rfl : (handles.vault i).lockFile = lock := Option.some.inj hlock
      refine ⟨place, hlocks.shows, fun j lock' hj hguard' hshows' => ?_⟩
      obtain ⟨other, hother⟩ := h.held j lock' hguard'
      obtain ⟨hkept, hne⟩ := hlocks.keeps hother
      exact hne (hkept.unique hshows')

/-- A release removes the lock file of the handle, and of no other. -/
theorem IsApart.release (h : IsApart handles) (i : ι) : IsApart (handles.after (.release i)) := by
  cases hi : handles.isLocked i with
  | false =>
    rw [after_release_of_free hi]
    exact h
  | true =>
    obtain ⟨lock, hguard⟩ := Option.isSome_iff_exists.1 hi
    obtain ⟨place, hshows⟩ := h.held i lock hguard
    obtain ⟨disk', hunlock, hsound, hclears⟩ := Vault.unlock_of_shows h.sound hguard hshows
    simp only [after, hunlock]
    refine h.put hsound (fun j lock' place' hj hguard' hshows' => ?_) fun lock hlock => by
      cases hlock
    refine hshows'.clear hclears fun heq => hj ?_
    exact h.apart j i lock' lock place hguard' hguard (heq ▸ hshows') hshows

/-- To look elsewhere changes nothing about locks. -/
theorem IsApart.withBase (h : IsApart handles) (i : ι) (base : Location) :
    IsApart (handles.step (.withBase i base)) := by
  refine h.put h.sound (fun _ _ _ _ _ hshows => hshows) fun lock hguard => ?_
  have hi : (handles.vault i).guard? = some lock := hguard
  obtain ⟨place, hshows⟩ := h.held i lock hi
  refine ⟨place, hshows, fun j lock' hj hguard' hshows' => hj ?_⟩
  exact h.apart j i lock' lock place hguard' hi hshows' hshows

/-- A move keeps locked handles apart, unless it loads over a lock file that is too old. -/
theorem IsApart.step (h : IsApart handles) {move : Move ι}
    (hyoung : ∀ i, move = .act (.load i) → handles.meetsStaleLock i = false) :
    IsApart (handles.step move) := by
  cases move with
  | withBase i base => exact h.withBase i base
  | act action =>
    cases action with
    | load i => exact h.load (hyoung i rfl)
    | store i graph refused? =>
      obtain ⟨hsound, hkeeps⟩ := Vault.store_shows h.sound (handles.vault i) graph refused?
      exact h.onDisk hsound hkeeps
    | release i => exact h.release i
    | wait seconds =>
      exact h.onDisk ((Disk.sameEntries_wait _ seconds).isSound h.sound)
        fun _ _ hshows => hshows.wait seconds

theorem isYoung_cons {move : Move ι} {rest : List (Move ι)}
    (h : handles.isYoung (move :: rest) = true) :
    (∀ i, move = .act (.load i) → handles.meetsStaleLock i = false) ∧
      (handles.step move).isYoung rest = true := by
  cases move with
  | withBase i base => exact ⟨fun j hj => (nomatch hj), h⟩
  | act action =>
    cases action with
    | load i =>
      simp only [isYoung, Bool.and_eq_true, Bool.not_eq_true'] at h
      refine ⟨fun j hj => ?_, h.2⟩
      obtain rfl := Action.load.inj (Move.act.inj hj)
      exact h.1
    | store i graph refused? => exact ⟨fun j hj => (nomatch hj), h⟩
    | release i => exact ⟨fun j hj => (nomatch hj), h⟩
    | wait seconds => exact ⟨fun j hj => (nomatch hj), h⟩

/-- Over a run without lock files that are too old, locked handles stay apart. -/
theorem IsApart.go (h : IsApart handles) {moves : List (Move ι)}
    (hyoung : handles.isYoung moves = true) : IsApart (handles.go moves) := by
  induction moves generalizing handles with
  | nil => exact h
  | cons move rest ih =>
    obtain ⟨hmove, hrest⟩ := isYoung_cons hyoung
    exact ih (h.step hmove) hrest

/-! Handles that look where their lock is. -/

/-- A handle stays so if it is not told to look elsewhere while it is locked. -/
theorem IsHome.step {i : ι} (h : IsHome handles i) {move : Move ι}
    (hfree : ∀ base, move = .withBase i base → handles.isLocked i = false) :
    IsHome (handles.step move) i := by
  have hput : ∀ (j : ι) (disk' : Disk) (vault' : Vault),
      (j = i → ∀ lock, vault'.guard? = some lock → lock = vault'.lockFile) →
      IsHome (handles.put j disk' vault') i := by
    intro j disk' vault' hself lock hguard
    by_cases hj : i = j
    · subst hj
      rw [vault_put_self] at hguard ⊢
      exact hself rfl lock hguard
    · rw [vault_put_of_ne hj] at hguard ⊢
      exact h lock hguard
  cases move with
  | withBase j base =>
    refine hput j _ _ fun hj lock hguard => ?_
    subst hj
    cases (guard?_of_free (hfree base rfl)).symm.trans hguard
  | act action =>
    cases action with
    | load j =>
      refine hput j _ _ fun hj lock hguard => ?_
      subst hj
      rcases Vault.vault_load handles.disk (handles.vault j) with hsame | hopened
      · rw [Handles.load, hsame] at hguard ⊢
        exact h lock hguard
      · rw [Handles.load, hopened] at hguard ⊢
        exact (Option.some.inj hguard).symm
    | store j graph refused? => exact h
    | release j =>
      refine hput j _ _ fun hj lock hguard => ?_
      simp only at hguard
      split at hguard
      · next hnone => cases hnone.symm.trans hguard
      · cases hguard
    | wait seconds => exact h

/-- A handle stays home over a run that moves its base only while it is not locked. -/
theorem IsHome.go {i : ι} (h : IsHome handles i) {moves : List (Move ι)}
    (hfree : isRebasedFree i handles moves = true) : IsHome (handles.go moves) i := by
  induction moves generalizing handles with
  | nil => exact h
  | cons move rest ih =>
    cases move with
    | withBase j base =>
      simp only [isRebasedFree, Bool.and_eq_true, Bool.not_eq_true', Bool.and_eq_false_iff,
        beq_eq_false_iff_ne] at hfree
      refine ih (h.step fun base' heq => ?_) hfree.2
      cases heq
      exact hfree.1.resolve_left fun hne => hne rfl
    | act action => exact ih (h.step fun base heq => nomatch heq) hfree

/-- The lock file is there, and it is that of no other handle. -/
def HoldsAlone (handles : Handles ι) (i : ι) (lock : Location) : Prop :=
  ∃ place, handles.disk.Shows lock place ∧ ∀ j lock', j ≠ i →
    (handles.vault j).guard? = some lock' → ¬ handles.disk.Shows lock' place

/-- What a load that returns has read, and that it has left the handle locked. -/
theorem load_returned (hsound : handles.disk.IsSound) {i : ι}
    (hyoung : handles.meetsStaleLock i = false) {graph : Graph}
    (hload : (handles.load i).result = .ok graph) :
    let after := handles.step (.act (.load i))
    (after.vault i).readGraph after.disk = .ok graph ∧ after.isLocked i = true ∧
      (handles.isLocked i = true → after = handles) := by
  intro after
  cases hi : handles.isLocked i with
  | true =>
    rcases Vault.load_of_locked handles.disk hi with heq | heq
    · have hresult : (handles.load i).result = _ := congrArg Vault.After.result heq
      cases hresult.symm.trans hload
    · have hresult : (handles.load i).result = _ := congrArg Vault.After.result heq
      have hsame : after = handles := after_load_of_eq heq
      rw [hsame]
      exact ⟨hresult.symm.trans hload, hi, fun _ => rfl⟩
  | false =>
    rcases load_cases hsound hi hyoung with ⟨disk', failure, heq, -, -⟩ | ⟨disk', place, heq, -⟩
    · rw [heq] at hload
      cases hload
    · rw [heq] at hload
      have hput : after = handles.put i disk' (handles.vault i).opened := by
        simp only [after, step, Handles.after, heq]
      rw [hput, isLocked_put, if_pos rfl, vault_put_self]
      exact ⟨hload, rfl, fun htrue => by cases htrue⟩

/-- **Loads are done under a lock.**  Handles that start without locks, on any folders of a sound
disk, do what they like, as long as no load comes upon a lock file that is too old.  A load that
returns has read the folder where the handle looks, and the handle then has a lock file that is
there and that no other handle has.  It is the lock file of that folder if the handle was told to
look elsewhere only while it was not locked.  A handle that was locked already takes no lock. -/
theorem loads_under_lock (hsound : handles.disk.IsSound) (hfree : ∀ i, handles.isLocked i = false)
    {moves : List (Move ι)} (hyoung : handles.isYoung moves = true) {i : ι}
    (hlast : (handles.go moves).meetsStaleLock i = false) {graph : Graph}
    (hload : ((handles.go moves).load i).result = .ok graph) :
    let now := handles.go moves
    let after := now.step (.act (.load i))
    (after.vault i).readGraph after.disk = .ok graph ∧
    (∃ lock, (after.vault i).guard? = some lock ∧ after.HoldsAlone i lock) ∧
    (isRebasedFree i handles moves = true →
      (after.vault i).guard? = some (after.vault i).lockFile) ∧
    (now.isLocked i = true → after = now) := by
  intro now after
  have hnow : IsApart now := (isApart_of_free hsound hfree).go hyoung
  have hafter : IsApart after := hnow.load hlast
  obtain ⟨hsnapshot, hlocked, hkept⟩ := load_returned hnow.sound hlast hload
  obtain ⟨lock, hguard⟩ := Option.isSome_iff_exists.1 hlocked
  obtain ⟨place, hshows⟩ := hafter.held i lock hguard
  refine ⟨hsnapshot, ⟨lock, hguard, place, hshows, ?_⟩, fun hrebased => ?_, hkept⟩
  · intro j lock' hj hguard' hshows'
    exact hj (hafter.apart j i lock' lock place hguard' hguard hshows' hshows)
  · have hhome : IsHome now i := (isHome_of_free (hfree i)).go hrebased
    have hthere : IsHome after i := hhome.step fun base heq => nomatch heq
    rw [hguard, hthere lock hguard]

/-- A handle lets go of its folder, and looks below a folder that another handle has left. -/
theorem loads_under_lock_in_turn :
    let handles : Handles Bool :=
      ⟨.empty, fun i => if i then .on ⟨.root, ["x"]⟩ else .on ⟨.root, ["y"]⟩⟩
    let moves : List (Move Bool) :=
      [.act (.load true), .act (.load false), .act (.release true), .act (.release false),
       .withBase true ⟨.root, ["y"]⟩, .act (.wait 5)]
    let now := handles.go moves
    let after := now.step (.act (.load true))
    (∀ i, handles.isLocked i = false) ∧ handles.isYoung moves = true ∧
    now.meetsStaleLock true = false ∧ isRebasedFree true handles moves = true ∧
    ∃ graph, (now.load true).result = .ok graph ∧
      (after.vault true).readGraph after.disk = .ok graph ∧
      (∃ lock, (after.vault true).guard? = some lock ∧ after.HoldsAlone true lock) ∧
      (after.vault true).guard? = some (after.vault true).lockFile := by
  intro handles moves now after
  have hfree : ∀ i, handles.isLocked i = false := fun i => by cases i <;> rfl
  have hyoung : handles.isYoung moves = true := by decide +kernel
  have hlast : now.meetsStaleLock true = false := by decide +kernel
  have hrebased : isRebasedFree true handles moves = true := by decide +kernel
  have hok : (now.load true).result.isOk = true := by decide +kernel
  refine ⟨hfree, hyoung, hlast, hrebased, ?_⟩
  cases hload : (now.load true).result with
  | error failure =>
    rw [hload] at hok
    cases hok
  | ok graph =>
    obtain ⟨hread, hheld, hhome, -⟩ :=
      loads_under_lock Disk.isSound_empty hfree hyoung hlast hload
    exact ⟨graph, rfl, hread, hheld, hhome hrebased⟩

/-- **A load without the lock.**  A handle that is locked and is told to look below the folder of
another locked handle loads from there.  The only lock of that folder is the other one's. -/
theorem read_without_lock :
    let handles : Handles Bool :=
      ⟨.empty, fun i => if i then .on ⟨.root, ["x"]⟩ else .on ⟨.root, []⟩⟩
    let moves : List (Move Bool) :=
      [.act (.load true), .act (.load false), .withBase true ⟨.root, []⟩]
    let now := handles.go moves
    let after := now.step (.act (.load true))
    handles.isYoung moves = true ∧ now.meetsStaleLock true = false ∧
    (now.load true).result.isOk = true ∧
    (after.vault true).guard? ≠ some (after.vault true).lockFile ∧
    (after.vault false).guard? = some (after.vault true).lockFile := by
  intro handles moves now after
  exact ⟨by decide +kernel, by decide +kernel, by decide +kernel, by decide +kernel,
    by decide +kernel⟩

end Handles

end TaskTree
