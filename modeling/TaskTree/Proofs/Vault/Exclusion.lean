import Mathlib.Logic.Function.Basic
import TaskTree.Proofs.Vault.Lock

/-!
# Many handles on one snapshot

Any number of handles load, store and release in any order while time goes by.  As long as no load
finds a lock file that is too old, the lock file is there exactly if a handle is locked, and only
one is at a time (`exclusive`).

A handle that takes over a lock file does not take the lock from the handle that had it: both are
locked then, and a release by either of them removes the file.  So a lock file that was taken over
stays exactly as long as none of those handles lets go (`kept_until_release`), and a late release
leaves the new holder without it (`lost_to_late_release`).
-/

namespace TaskTree

/-- A new handle on the snapshot below a base folder. -/
def Vault.on (base : Location) : Vault := { base, staleAfter := Vault.defaultStaleAfter }

/-- Handles on one base folder have one lock file. -/
theorem Vault.lockFile_of_base {vault : Vault} {base : Location} (h : vault.base = base) :
    vault.lockFile = (Vault.on base).lockFile := by
  subst h
  rfl

/-- Whether a handle can be used depends on its base only. -/
theorem Vault.IsUsable.of_base {disk : Disk} {vault other : Vault} (h : vault.IsUsable disk)
    (hbase : other.base = vault.base) : other.IsUsable disk := by
  obtain ⟨base, staleAfter, guard?⟩ := vault
  obtain ⟨base', staleAfter', guard?'⟩ := other
  obtain rfl : base' = base := hbase
  obtain ⟨made, place, ⟨hobstacle, hfolder, hsettled⟩, hlock⟩ := h
  have hsettled' : Vault.IsSettled made ⟨base', staleAfter', guard?'⟩ place :=
    ⟨hsettled.named, hsettled.sound, hsettled.found, hsettled.lock, hsettled.apart⟩
  exact ⟨made, place, ⟨hobstacle, hfolder, hsettled'⟩, hlock⟩

/-- Handles with the disk that they share. -/
structure Handles (ι : Type) where
  disk : Disk
  vault : ι → Vault

/-- What handles do, and the time between. -/
inductive Handles.Action (ι : Type) where
  | load (i : ι)
  | store (i : ι) (graph : Graph) (refused? : Option Disk.Refusal)
  /-- A handle is unlocked, closed or dropped, or the block that it was opened for ends. -/
  | release (i : ι)
  | wait (seconds : Int)

namespace Handles

variable {ι : Type} {base : Location} {handles : Handles ι}

/-- The handle is locked. -/
def isLocked (handles : Handles ι) (i : ι) : Bool := (handles.vault i).isLocked

/-- The lock file of a base folder is there. -/
def hasLock (handles : Handles ι) (base : Location) : Bool :=
  handles.disk.holds (Vault.on base).lockFile

/-- The handle would come upon a lock file that is too old for it.  One that is locked does not
look. -/
def findsStaleLock (handles : Handles ι) (i : ι) : Bool :=
  match handles.disk.age (handles.vault i).lockFile with
  | .ok age => !handles.isLocked i && (handles.vault i).staleAfter ≤ age
  | .error _ => false

/-- What a load by a handle comes to. -/
def load (handles : Handles ι) (i : ι) : Vault.After Graph := (handles.vault i).load handles.disk

/-- New handles on one base folder that can be used and has no lock file. -/
structure IsStart (base : Location) (handles : Handles ι) : Prop where
  based : ∀ i, (handles.vault i).base = base
  free : ∀ i, handles.isLocked i = false
  usable : (Vault.on base).IsUsable handles.disk
  noLock : handles.hasLock base = false

/-- New handles at the root of an empty disk can be used, and there is no lock file. -/
theorem isStart_root {ι : Type} {handles : Handles ι} (hdisk : handles.disk = .empty)
    (hnew : ∀ i, (handles.vault i).base = ⟨.root, []⟩ ∧ (handles.vault i).guard? = none) :
    IsStart ⟨.root, []⟩ handles := by
  have hstate : ((Disk.ensureFolder .empty (Vault.on ⟨.root, []⟩).folder).1).find true
      (Vault.on ⟨.root, []⟩).stateFile = .ok (Vault.on ⟨.root, []⟩).stateFile := rfl
  have hapart : ((Disk.ensureFolder .empty (Vault.on ⟨.root, []⟩).folder).1).find true
      (Vault.on ⟨.root, []⟩).stateFile ≠ .ok (Vault.on ⟨.root, []⟩).lockFile := by
    rw [hstate]
    intro heq
    exact absurd (Except.ok.inj heq) (by decide)
  obtain ⟨husable, hlock⟩ := Vault.isUsable_of_noLock Disk.isSound_empty rfl rfl rfl rfl hapart
  refine ⟨fun i => (hnew i).1, fun i => ?_, hdisk ▸ husable, ?_⟩
  · rw [isLocked, Vault.isLocked, (hnew i).2]
    rfl
  · rw [hasLock, hdisk]
    exact hlock

/-! What a handle does. -/

/-- The handles are on one base folder that can be used, and a lock file is one of theirs. -/
structure Stands (base : Location) (handles : Handles ι) : Prop where
  based : ∀ i, (handles.vault i).base = base
  guard : ∀ i, handles.isLocked i = true →
    (handles.vault i).guard? = some (Vault.on base).lockFile
  usable : (Vault.on base).IsUsable handles.disk
  held : handles.hasLock base = true → ∃ i, handles.isLocked i = true

/-- New handles stand on their base folder. -/
theorem IsStart.stands (h : IsStart base handles) : Stands base handles where
  based := h.based
  guard := fun i hlocked => by
    rw [h.free i] at hlocked
    cases hlocked
  usable := h.usable
  held := fun hlock => by
    rw [h.noLock] at hlock
    cases hlock

/-- Each of the handles can be used. -/
theorem Stands.isUsable (h : Stands base handles) (i : ι) :
    (handles.vault i).IsUsable handles.disk :=
  h.usable.of_base (h.based i)

/-- A load by a handle that is locked changes nothing. -/
theorem Stands.load_of_isLocked (h : Stands base handles) {i : ι}
    (hlocked : handles.isLocked i = true) :
    handles.load i = ⟨handles.disk, handles.vault i, (handles.vault i).readGraph handles.disk⟩ :=
  (h.isUsable i).load_of_isLocked hlocked

/-- A load by a handle that is not locked is refused by a lock file that is young enough, and
changes nothing then.  Otherwise the handle is locked from then on, and its lock file is there. -/
theorem Stands.load_cases (h : Stands base handles) {i : ι} (hfree : handles.isLocked i = false) :
    (handles.hasLock base = true ∧ handles.load i =
        ⟨handles.disk, handles.vault i, .error (.fault .snapshotLocked)⟩) ∨
      ((handles.hasLock base = true → handles.findsStaleLock i = true) ∧ ∃ disk',
        handles.load i = ⟨disk', { handles.vault i with guard? := some (Vault.on base).lockFile },
          (handles.vault i).readGraph disk'⟩ ∧
        (Vault.on base).IsUsable disk' ∧ disk'.holds (Vault.on base).lockFile = true) := by
  have hlock := Vault.lockFile_of_base (h.based i)
  rcases (h.isUsable i).load_cases hfree with
    ⟨hholds, -, hload⟩ | ⟨hopen, disk', hload, husable, hholds⟩
  · rw [hlock] at hholds
    exact .inl ⟨hholds, hload⟩
  · rw [hlock] at hopen hload hholds
    refine .inr ⟨?_, disk', hload, husable.of_base (h.based i).symm, hholds⟩
    intro hthere
    rcases hopen with hnone | ⟨age, hage, hold⟩
    · exact Bool.noConfusion (hnone.symm.trans hthere)
    · simp [findsStaleLock, hlock, hage, hfree, hold]

/-- One handle is locked at most, and its lock file is there. -/
structure IsExclusive (base : Location) (handles : Handles ι) : Prop where
  stands : Stands base handles
  one : ∀ i j, handles.isLocked i = true → handles.isLocked j = true → i = j
  lock : ∀ i, handles.isLocked i = true → handles.hasLock base = true

/-- Of new handles none is locked. -/
theorem IsStart.isExclusive (h : IsStart base handles) : IsExclusive base handles where
  stands := h.stands
  one := fun i _ hi _ => Bool.noConfusion ((h.free i).symm.trans hi)
  lock := fun i hi => Bool.noConfusion ((h.free i).symm.trans hi)

variable [DecidableEq ι]

/-! Runs. -/

/-- The handles after one of them has changed, and the disk with it. -/
def put (handles : Handles ι) (i : ι) (disk : Disk) (vault : Vault) : Handles ι :=
  ⟨disk, Function.update handles.vault i vault⟩

@[simp] theorem vault_put_self (handles : Handles ι) (i : ι) (disk : Disk) (vault : Vault) :
    (handles.put i disk vault).vault i = vault := by
  simp only [put, Function.update_self]

/-- The other handles are left as they are. -/
theorem vault_put_of_ne {i j : ι} (hne : j ≠ i) (handles : Handles ι) (disk : Disk)
    (vault : Vault) : (handles.put i disk vault).vault j = handles.vault j := by
  simp only [put, Function.update_of_ne hne]

/-- Putting a handle changes what is locked for this one alone. -/
theorem isLocked_put (handles : Handles ι) (i j : ι) (disk : Disk) (vault : Vault) :
    (handles.put i disk vault).isLocked j =
      if j = i then vault.isLocked else handles.isLocked j := by
  by_cases hj : j = i
  · subst hj
    rw [if_pos rfl, isLocked, vault_put_self]
  · rw [if_neg hj, isLocked, vault_put_of_ne hj, isLocked]

/-- The handles after an action. -/
def after (handles : Handles ι) : Action ι → Handles ι
  | .load i => handles.put i (handles.load i).disk (handles.load i).vault
  | .store i graph refused? =>
    { handles with disk := ((handles.vault i).store handles.disk graph refused?).1 }
  | .release i =>
    let (disk, vault) := (handles.vault i).unlock handles.disk
    handles.put i disk vault
  | .wait seconds => { handles with disk := handles.disk.wait seconds }

/-- The handles after one action after another. -/
def run (handles : Handles ι) (actions : List (Action ι)) : Handles ι :=
  actions.foldl after handles

/-- No load comes upon a lock file that is too old. -/
def isCalm (handles : Handles ι) : List (Action ι) → Bool
  | [] => true
  | .load i :: rest => !handles.findsStaleLock i && (handles.after (.load i)).isCalm rest
  | action :: rest => (handles.after action).isCalm rest

theorem isCalm_cons {action : Action ι} {rest : List (Action ι)}
    (h : handles.isCalm (action :: rest) = true) :
    (∀ i, action = .load i → handles.findsStaleLock i = false) ∧
      (handles.after action).isCalm rest = true := by
  cases action with
  | load i =>
    simp only [isCalm, Bool.and_eq_true, Bool.not_eq_true'] at h
    refine ⟨fun j hj => ?_, h.2⟩
    obtain rfl := Action.load.inj hj
    exact h.1
  | store i graph refused? => exact ⟨fun j hj => (nomatch hj), h⟩
  | release i => exact ⟨fun j hj => (nomatch hj), h⟩
  | wait seconds => exact ⟨fun j hj => (nomatch hj), h⟩

/-- A load that changes neither disk nor handle changes nothing. -/
theorem after_load_of_eq {i : ι} {result : Except Failure Graph}
    (hload : handles.load i = ⟨handles.disk, handles.vault i, result⟩) :
    handles.after (.load i) = handles := by
  simp only [after, hload, put, Function.update_eq_self]

/-- Releasing a handle that is not locked changes nothing. -/
theorem after_release_of_free {i : ι} (hfree : handles.isLocked i = false) :
    handles.after (.release i) = handles := by
  have hunlock := Vault.unlock_of_free handles.disk hfree
  simp only [after, hunlock, put, Function.update_eq_self]

/-- A release by a handle that is locked removes the lock file, whoever has put it there. -/
theorem Stands.after_release (h : Stands base handles) {i : ι}
    (hlocked : handles.isLocked i = true) :
    ∃ disk', handles.after (.release i) =
        handles.put i disk' { handles.vault i with guard? := none } ∧
      (Vault.on base).IsUsable disk' ∧ disk'.holds (Vault.on base).lockFile = false := by
  have hlock := Vault.lockFile_of_base (h.based i)
  have hguard : (handles.vault i).guard? = some (handles.vault i).lockFile :=
    hlock.symm ▸ h.guard i hlocked
  obtain ⟨disk', hunlock, husable, hholds⟩ := (h.isUsable i).unlock hguard
  refine ⟨disk', ?_, husable.of_base (h.based i).symm, hlock ▸ hholds⟩
  simp only [after, hunlock]


/-- The handles stand as before when one of them gets the lock or loses it. -/
theorem Stands.put (h : Stands base handles) {i : ι} {disk' : Disk} {guard? : Option Location}
    (hguard : guard? = none ∨ guard? = some (Vault.on base).lockFile)
    (husable : (Vault.on base).IsUsable disk')
    (hheld : disk'.holds (Vault.on base).lockFile = true → guard?.isSome = true) :
    Stands base (handles.put i disk' { handles.vault i with guard? }) where
  based := by
    intro j
    by_cases hj : j = i
    · subst hj
      rw [vault_put_self]
      exact h.based j
    · rw [vault_put_of_ne hj]
      exact h.based j
  guard := by
    intro j hlocked
    rw [isLocked_put] at hlocked
    by_cases hj : j = i
    · subst hj
      rw [if_pos rfl] at hlocked
      rw [vault_put_self]
      rcases hguard with rfl | rfl
      · cases hlocked
      · rfl
    · rw [if_neg hj] at hlocked
      rw [vault_put_of_ne hj]
      exact h.guard j hlocked
  usable := husable
  held := by
    intro hlock
    refine ⟨i, ?_⟩
    rw [isLocked_put, if_pos rfl]
    exact hheld hlock

/-- Whatever is done, the handles stand as before. -/
theorem Stands.after (h : Stands base handles) (action : Action ι) :
    Stands base (handles.after action) := by
  cases action with
  | load i =>
    cases hi : handles.isLocked i with
    | true =>
      rw [after_load_of_eq (h.load_of_isLocked hi)]
      exact h
    | false =>
      rcases h.load_cases hi with ⟨-, hload⟩ | ⟨-, disk', hload, husable, hholds⟩
      · rw [after_load_of_eq hload]
        exact h
      · simp only [Handles.after, hload]
        exact h.put (.inr rfl) husable fun _ => rfl
  | store i graph refused? =>
    obtain ⟨husable, hholds⟩ := (h.isUsable i).store graph refused?
    rw [Vault.lockFile_of_base (h.based i)] at hholds
    exact ⟨h.based, h.guard, husable.of_base (h.based i).symm,
      fun hlock => h.held (hholds.symm.trans hlock)⟩
  | release i =>
    cases hi : handles.isLocked i with
    | false =>
      rw [after_release_of_free hi]
      exact h
    | true =>
      obtain ⟨disk', hafter, husable, hholds⟩ := h.after_release hi
      rw [hafter]
      exact h.put (.inl rfl) husable fun hlock => Bool.noConfusion (hholds.symm.trans hlock)
  | wait seconds =>
    obtain ⟨husable, hholds⟩ := h.usable.wait seconds
    exact ⟨h.based, h.guard, husable, fun hlock => h.held (hholds.symm.trans hlock)⟩

/-- The handles stand on their base folder after any run. -/
theorem Stands.run (h : Stands base handles) (actions : List (Action ι)) :
    Stands base (handles.run actions) := by
  induction actions generalizing handles with
  | nil => exact h
  | cons action rest ih => exact ih (h.after action)

/-- Once a handle is locked, it stays locked until it is released. -/
theorem isLocked_run {i : ι} (h : handles.isLocked i = true) {actions : List (Action ι)}
    (hkeeps : .release i ∉ actions) : (handles.run actions).isLocked i = true := by
  induction actions generalizing handles with
  | nil => exact h
  | cons action rest ih =>
    obtain ⟨hne, hrest⟩ := not_or.1 (mt List.mem_cons.2 hkeeps)
    refine ih ?_ hrest
    cases action with
    | load j =>
      rw [after, isLocked_put]
      split
      · next hj =>
        subst hj
        rw [load, Vault.vault_load_of_isLocked h]
        exact h
      · exact h
    | store j graph refused? => exact h
    | release j =>
      have hj : i ≠ j := fun heq => hne (heq ▸ rfl)
      rw [after, isLocked_put, if_neg hj]
      exact h
    | wait seconds => exact h

/-! Runs without stale locks. -/

/-- A handle that looks for the lock gets it only if no handle is locked. -/
theorem IsExclusive.after_load (h : IsExclusive base handles) {i : ι}
    (hcalm : handles.findsStaleLock i = false) : IsExclusive base (handles.after (.load i)) := by
  have hstands := h.stands.after (.load i)
  cases hi : handles.isLocked i with
  | true =>
    rw [after_load_of_eq (h.stands.load_of_isLocked hi)]
    exact h
  | false =>
    rcases h.stands.load_cases hi with ⟨-, hload⟩ | ⟨hopen, disk', hload, -, hholds⟩
    · rw [after_load_of_eq hload]
      exact h
    · have hnobody : ∀ j, handles.isLocked j = true → False :=
        fun j hj => Bool.noConfusion (hcalm.symm.trans (hopen (h.lock j hj)))
      have honly : ∀ j, (handles.after (.load i)).isLocked j = true → j = i := by
        intro j hj
        rw [after, isLocked_put] at hj
        split at hj
        · assumption
        · exact (hnobody j hj).elim
      refine ⟨hstands, fun j k hj hk => (honly j hj).trans (honly k hk).symm, fun _ _ => ?_⟩
      simp only [after, hload]
      exact hholds

/-- A release by the handle that is locked leaves none. -/
theorem IsExclusive.after_release (h : IsExclusive base handles) (i : ι) :
    IsExclusive base (handles.after (.release i)) := by
  have hstands := h.stands.after (.release i)
  cases hi : handles.isLocked i with
  | false =>
    rw [after_release_of_free hi]
    exact h
  | true =>
    obtain ⟨disk', hafter, -, -⟩ := h.stands.after_release hi
    have hnobody : ∀ j, (handles.after (.release i)).isLocked j = true → False := by
      intro j hj
      rw [hafter, isLocked_put] at hj
      split at hj
      · cases hj
      · next hne => exact hne (h.one j i hj hi)
    exact ⟨hstands, fun j _ hj _ => (hnobody j hj).elim, fun j hj => (hnobody j hj).elim⟩

/-- A calm action leaves one handle locked at most. -/
theorem IsExclusive.after (h : IsExclusive base handles) {action : Action ι}
    (hcalm : ∀ i, action = .load i → handles.findsStaleLock i = false) :
    IsExclusive base (handles.after action) := by
  have hstands := h.stands.after action
  cases action with
  | load i => exact h.after_load (hcalm i rfl)
  | store i graph refused? =>
    obtain ⟨-, hholds⟩ := (h.stands.isUsable i).store graph refused?
    rw [Vault.lockFile_of_base (h.stands.based i)] at hholds
    exact ⟨hstands, h.one, fun j hj => hholds.trans (h.lock j hj)⟩
  | release i => exact h.after_release i
  | wait seconds =>
    obtain ⟨-, hholds⟩ := h.stands.usable.wait seconds
    exact ⟨hstands, h.one, fun j hj => hholds.trans (h.lock j hj)⟩

/-- A calm run leaves one handle locked at most. -/
theorem IsExclusive.run (h : IsExclusive base handles) {actions : List (Action ι)}
    (hcalm : handles.isCalm actions = true) : IsExclusive base (handles.run actions) := by
  induction actions generalizing handles with
  | nil => exact h
  | cons action rest ih =>
    obtain ⟨hload, hrest⟩ := isCalm_cons hcalm
    exact ih (h.after hload) hrest

/-- **Exclusion.**  At any point of a run in which no load finds a lock file that is too old, one
handle is locked at most, and the lock file is there exactly if one is.  Loads by that handle read
the snapshot and change nothing; loads by others are refused and change nothing.  If none is
locked, a load gets the lock, whatever comes of reading the snapshot, and the handle stays locked
until it is released.  To release a handle that is not locked changes nothing. -/
theorem exclusive (hstart : IsStart base handles) {actions : List (Action ι)}
    (hcalm : handles.isCalm actions = true) :
    let now := handles.run actions
    (∀ i j, now.isLocked i = true → now.isLocked j = true → i = j) ∧
    (now.hasLock base = true ↔ ∃ i, now.isLocked i = true) ∧
    (∀ i, now.isLocked i = true →
      now.load i = ⟨now.disk, now.vault i, (now.vault i).readGraph now.disk⟩ ∧
      ∀ j, j ≠ i → now.findsStaleLock j = false →
        now.load j = ⟨now.disk, now.vault j, .error (.fault .snapshotLocked)⟩) ∧
    ((∀ i, now.isLocked i = false) → ∀ i,
      (now.load i).result = (now.vault i).readGraph (now.load i).disk ∧
      ∀ more, .release i ∉ more → ((now.after (.load i)).run more).isLocked i = true) ∧
    (∀ i, now.isLocked i = false → now.after (.release i) = now) := by
  intro now
  have hnow : IsExclusive base now := hstart.isExclusive.run hcalm
  refine ⟨hnow.one, ⟨hnow.stands.held, ?_⟩, ?_, ?_, fun i hi => after_release_of_free hi⟩
  · intro hlocked
    obtain ⟨i, hi⟩ := hlocked
    exact hnow.lock i hi
  · intro i hi
    refine ⟨hnow.stands.load_of_isLocked hi, fun j hj hyoung => ?_⟩
    have hfree : now.isLocked j = false := by
      cases hlocked : now.isLocked j with
      | false => rfl
      | true => exact (hj (hnow.one j i hlocked hi)).elim
    rcases hnow.stands.load_cases hfree with ⟨-, hload⟩ | ⟨hopen, -⟩
    · exact hload
    · exact Bool.noConfusion (hyoung.symm.trans (hopen (hnow.lock i hi)))
  · intro hnobody i
    rcases hnow.stands.load_cases (hnobody i) with ⟨hthere, -⟩ | ⟨-, disk', hload, -, -⟩
    · obtain ⟨j, hj⟩ := hnow.stands.held hthere
      exact Bool.noConfusion ((hnobody j).symm.trans hj)
    · have hlocked : (now.after (.load i)).isLocked i = true := by
        rw [Handles.after, isLocked_put, if_pos rfl, hload]
        rfl
      refine ⟨by rw [hload], fun more hkeeps => isLocked_run hlocked hkeeps⟩

/-- The lock goes from one handle to another, and the first is released and refused after that. -/
theorem exclusive_in_turn :
    let start : Handles (Fin 2) := ⟨.empty, fun _ => .on ⟨.root, []⟩⟩
    let actions : List (Action (Fin 2)) :=
      [.load 0, .load 1, .wait 60, .store 0 [("r", .emptyUser)] none, .release 0, .load 1]
    let now := start.run actions
    IsStart ⟨.root, []⟩ start ∧ start.isCalm actions = true ∧ now.isLocked 1 = true ∧
      now.hasLock ⟨.root, []⟩ = true ∧
      now.load 0 = ⟨now.disk, now.vault 0, .error (.fault .snapshotLocked)⟩ ∧
      now.after (.release 0) = now := by
  intro start actions now
  have hstart : IsStart ⟨.root, []⟩ start := isStart_root rfl fun _ => ⟨rfl, rfl⟩
  have hcalm : start.isCalm actions = true := by decide +kernel
  have hlocked : now.isLocked 1 = true := by decide +kernel
  have hfree : now.isLocked 0 = false := by decide +kernel
  have hyoung : now.findsStaleLock 0 = false := by decide +kernel
  obtain ⟨-, hlock, hload, -, hrelease⟩ := exclusive hstart hcalm
  exact ⟨hstart, hcalm, hlocked, hlock.2 ⟨1, hlocked⟩,
    (hload 1 hlocked).2 0 (by decide) hyoung, hrelease 0 hfree⟩

/-! Runs in which a lock was taken over. -/

/-- A lock file stays, and the same handles are locked, until one of them is released. -/
theorem Stands.kept (h : Stands base handles) (hlock : handles.hasLock base = true)
    {actions : List (Action ι)} (hcalm : handles.isCalm actions = true)
    (hkeeps : ∀ i, handles.isLocked i = true → .release i ∉ actions) :
    (handles.run actions).vault = handles.vault ∧ (handles.run actions).hasLock base = true := by
  induction actions generalizing handles with
  | nil => exact ⟨rfl, hlock⟩
  | cons action rest ih =>
    obtain ⟨hload, hrest⟩ := isCalm_cons hcalm
    have hstep : (handles.after action).vault = handles.vault ∧
        (handles.after action).hasLock base = true := by
      cases action with
      | load i =>
        cases hi : handles.isLocked i with
        | true =>
          rw [after_load_of_eq (h.load_of_isLocked hi)]
          exact ⟨rfl, hlock⟩
        | false =>
          rcases h.load_cases hi with ⟨-, hrefused⟩ | ⟨hopen, -⟩
          · rw [after_load_of_eq hrefused]
            exact ⟨rfl, hlock⟩
          · exact Bool.noConfusion ((hload i rfl).symm.trans (hopen hlock))
      | store i graph refused? =>
        obtain ⟨-, hholds⟩ := (h.isUsable i).store graph refused?
        rw [Vault.lockFile_of_base (h.based i)] at hholds
        exact ⟨rfl, hholds.trans hlock⟩
      | release i =>
        cases hi : handles.isLocked i with
        | true => exact (hkeeps i hi List.mem_cons_self).elim
        | false =>
          rw [after_release_of_free hi]
          exact ⟨rfl, hlock⟩
      | wait seconds =>
        obtain ⟨-, hholds⟩ := h.usable.wait seconds
        exact ⟨rfl, hholds.trans hlock⟩
    obtain ⟨hvault, hlock'⟩ := hstep
    have hkeeps' : ∀ i, (handles.after action).isLocked i = true → .release i ∉ rest := by
      intro i hi hmem
      rw [isLocked, hvault] at hi
      exact hkeeps i hi (List.mem_cons_of_mem _ hmem)
    obtain ⟨hrun, hthere⟩ := ih (h.after action) hlock' hrest hkeeps'
    exact ⟨hrun.trans hvault, hthere⟩

/-- **What a lock file lasts for.**  Once a load has given a handle the lock, in whatever run, the
lock file is there as long as no later load finds it too old and none of the handles is released
that are locked then: the one that has just got the lock, and any whose lock was taken over.  So
long the others are refused.  The first release among those handles removes the file, and the rest
of them stay locked without it. -/
theorem kept_until_release (hstart : IsStart base handles) (actions : List (Action ι)) {i : ι}
    (hfree : (handles.run actions).isLocked i = false)
    (htaken : ((handles.run actions).after (.load i)).isLocked i = true)
    {more : List (Action ι)} (hcalm : ((handles.run actions).after (.load i)).isCalm more = true)
    (hkeeps : ∀ j, ((handles.run actions).after (.load i)).isLocked j = true → .release j ∉ more) :
    let now := ((handles.run actions).after (.load i)).run more
    now.hasLock base = true ∧ now.isLocked i = true ∧
    (∀ j, now.isLocked j = false → now.findsStaleLock j = false →
      now.load j = ⟨now.disk, now.vault j, .error (.fault .snapshotLocked)⟩) ∧
    ∀ j, now.isLocked j = true → (now.after (.release j)).hasLock base = false ∧
      ∀ k, k ≠ j → (now.after (.release j)).isLocked k = now.isLocked k := by
  intro now
  have hbefore : Stands base (handles.run actions) := hstart.stands.run actions
  have hstands : Stands base now := (hbefore.after (.load i)).run more
  have hlock : ((handles.run actions).after (.load i)).hasLock base = true := by
    rcases hbefore.load_cases hfree with ⟨-, hload⟩ | ⟨-, disk', hload, -, hholds⟩
    · rw [after_load_of_eq hload, hfree] at htaken
      cases htaken
    · simp only [after, hload]
      exact hholds
  obtain ⟨hvault, hthere⟩ := (hbefore.after (.load i)).kept hlock hcalm hkeeps
  refine ⟨hthere, isLocked_run htaken (hkeeps i htaken), ?_, ?_⟩
  · intro j hj hyoung
    rcases hstands.load_cases hj with ⟨-, hload⟩ | ⟨hopen, -⟩
    · exact hload
    · exact Bool.noConfusion (hyoung.symm.trans (hopen hthere))
  · intro j hj
    obtain ⟨disk', hafter, -, hholds⟩ := hstands.after_release hj
    rw [hafter]
    exact ⟨hholds, fun k hk => by rw [isLocked_put, if_neg hk]⟩

/-- A lock file that was taken over refuses a third handle, until the first one lets go. -/
theorem kept_until_release_late :
    let start : Handles (Fin 3) := ⟨.empty, fun _ => ⟨⟨.root, []⟩, 60, none⟩⟩
    let taken := (start.run [.load 0, .wait 100]).after (.load 1)
    let now := taken.run [.wait 10, .load 2]
    IsStart ⟨.root, []⟩ start ∧ taken.isLocked 1 = true ∧ now.hasLock ⟨.root, []⟩ = true ∧
      now.load 2 = ⟨now.disk, now.vault 2, .error (.fault .snapshotLocked)⟩ ∧
      (now.after (.release 0)).hasLock ⟨.root, []⟩ = false ∧
      (now.after (.release 0)).isLocked 1 = true := by
  intro start taken now
  have hstart : IsStart ⟨.root, []⟩ start := isStart_root rfl fun _ => ⟨rfl, rfl⟩
  have hfree : (start.run [.load 0, .wait 100]).isLocked 1 = false := by decide +kernel
  have htaken : taken.isLocked 1 = true := by decide +kernel
  have hcalm : taken.isCalm [.wait 10, .load 2] = true := by decide +kernel
  have hkeeps : ∀ j, taken.isLocked j = true →
      (.release j : Action (Fin 3)) ∉ [.wait 10, .load 2] := by simp
  obtain ⟨hlock, hlocked, hload, hrelease⟩ :=
    kept_until_release hstart [.load 0, .wait 100] hfree htaken hcalm hkeeps
  obtain ⟨hgone, hothers⟩ := hrelease 0 (by decide +kernel)
  exact ⟨hstart, htaken, hlock, hload 2 (by decide +kernel) (by decide +kernel), hgone,
    (hothers 1 (by decide)).trans hlocked⟩

/-- **A late release takes the lock file from its new holder.**  The first handle lets go after the
second has taken over its lock file, and the third gets the lock while the second is locked. -/
theorem lost_to_late_release :
    let start : Handles (Fin 3) := ⟨.empty, fun _ => ⟨⟨.root, []⟩, 60, none⟩⟩
    let taken := (start.run [.load 0, .wait 100]).after (.load 1)
    let now := taken.after (.release 0)
    IsStart ⟨.root, []⟩ start ∧ taken.hasLock ⟨.root, []⟩ = true ∧
      now.isLocked 1 = true ∧ now.hasLock ⟨.root, []⟩ = false ∧
      now.isLocked 2 = false ∧ now.findsStaleLock 2 = false ∧
      (now.load 2).result.isOk = true := by
  intro start taken now
  have hstart : IsStart ⟨.root, []⟩ start := isStart_root rfl fun _ => ⟨rfl, rfl⟩
  exact ⟨hstart, by decide +kernel, by decide +kernel, by decide +kernel, by decide +kernel,
    by decide +kernel, by decide +kernel⟩

end Handles

end TaskTree
