import TaskTree.Vault
import TaskTree.Proofs.Disk.Change
import TaskTree.Proofs.Graph.Names
import TaskTree.Proofs.Graph.Reading
import TaskTree.Proofs.Text.Utf8

/-!
# Vaults that are in use

A load that gets the lock comes to what is read (`load_reads`).  A vault from
which a graph was loaded has its folder on the disk, since its lock was put
there (`isReady_load`).  From then on storing comes down to writing one file
(`IsReady.store`), and what was stored is loaded (`readGraph_of_writeFile`).
-/

namespace TaskTree

/-- A text could not be made sense of. -/
def FailsToParse {α : Type} (result : Except Failure α) : Prop :=
  ∃ fault, result = .error (.fault fault) ∧ fault.kind = .parse

namespace Graph

/-- Snapshots have no carriage returns, so they are read as they were written. -/
theorem foldLineEnds_snapshot {graph : Graph} (h : graph.IsWellNamed) :
    Text.foldLineEnds graph.snapshot.toList = graph.snapshot.toList :=
  Text.foldLineEnds_eq_self (Json.not_mem_pretty (isTextual_toJson h graph.isNested_depthBelow))

end Graph

namespace Vault

variable {disk disk' : Disk} {vault : Vault}

/-- The folder of the snapshot is on the disk, at a location that can be asked for. -/
structure IsReady (disk : Disk) (vault : Vault) : Prop where
  named : vault.base.hasNull = false
  folder : disk.isFolder vault.folder = true

/-- A base folder that is no obstacle has no null character. -/
theorem hasNull_of_obstacle? (h : vault.obstacle? disk = none) : vault.base.hasNull = false := by
  unfold obstacle? at h
  split at h
  · cases h
  · next hnull => simpa using hnull

/-! Loading. -/

/-- **How a lock file is created**: where nothing is, or over one that is too old.  If it is not, it
counts as held, or as a file that cannot be written. -/
theorem createLock_cases (disk : Disk) (lock : Location) (staleAfter : Int) :
    (∃ disk', createLock disk lock staleAfter = .ok disk' ∧
        (disk.createFile lock lockPayload = .ok disk' ∨
          takeOver disk lock = .ok disk' ∧ ∃ age, disk.age lock = .ok age ∧ staleAfter ≤ age)) ∨
      createLock disk lock staleAfter = .error .snapshotLocked ∨
      ∃ r, createLock disk lock staleAfter = .error (.cannotLock lock r) := by
  have hrefuse : ∀ r : Disk.Refusal,
      let refused : Except Fault Disk :=
        if r.code = .exists then .error .snapshotLocked else .error (.cannotLock lock r)
      refused = .error .snapshotLocked ∨ ∃ r, refused = .error (.cannotLock lock r) := by
    intro r refused
    by_cases hcode : r.code = .exists
    · exact .inl (if_pos hcode)
    · exact .inr ⟨r, if_neg hcode⟩
  unfold createLock
  cases hcreate : disk.createFile lock lockPayload with
  | ok disk' => exact .inl ⟨disk', rfl, .inl rfl⟩
  | error r =>
    simp only
    split
    · exact .inr (.inr ⟨r, rfl⟩)
    · cases hage : disk.age lock with
      | error r' =>
        simp only
        split
        · exact .inr (hrefuse r')
        · exact .inr (hrefuse r)
      | ok age =>
        simp only
        split
        · exact .inr (.inl rfl)
        · next hold =>
          cases htake : takeOver disk lock with
          | ok disk' => exact .inl ⟨disk', rfl, .inr ⟨rfl, age, rfl, Int.not_lt.1 hold⟩⟩
          | error r' => exact .inr (hrefuse r')

/-- However a lock was taken, in the end its file was created. -/
theorem createFile_of_createLock {lock : Location} {staleAfter : Int}
    (h : createLock disk lock staleAfter = .ok disk') :
    ∃ before : Disk, before.createFile lock lockPayload = .ok disk' := by
  rcases createLock_cases disk lock staleAfter with
    ⟨created, hcreated, hcreate | ⟨htake, -⟩⟩ | hlocked | ⟨r, hrefused⟩
  · cases hcreated.symm.trans h
    exact ⟨disk, hcreate⟩
  · cases hcreated.symm.trans h
    unfold takeOver at htake
    split at htake
    · cases htake
    · exact ⟨_, htake⟩
  · cases hlocked.symm.trans h
  · cases hrefused.symm.trans h

/-- A vault that has taken its lock has its folder. -/
theorem isFolder_of_acquire {vault' : Vault} (h : vault.acquire disk = (disk', .ok vault')) :
    disk'.isFolder vault.folder = true ∧ vault' = { vault with guard? := some vault.lockFile } := by
  unfold acquire at h
  split at h
  · cases h
  · split at h
    · cases h
    · next hlock =>
      cases h
      obtain ⟨before, hcreate⟩ := createFile_of_createLock hlock
      exact ⟨Disk.isFolder_of_createFile hcreate, rfl⟩

/-- A lock that is not got is no matter of parsing. -/
theorem kind_of_acquire {fault : Fault} (h : vault.acquire disk = (disk', .error fault)) :
    fault.kind ≠ .parse := by
  unfold acquire at h
  split at h
  · cases h
    split
    · exact fun hkind => by cases hkind
    · exact fun hkind => by cases hkind
  · next made _ =>
    rcases createLock_cases made vault.lockFile vault.staleAfter with
      ⟨created, hcreated, -⟩ | hlocked | ⟨r, hrefused⟩
    · simp only [hcreated] at h
      cases h
    · simp only [hlocked] at h
      cases h
      exact fun hkind => by cases hkind
    · simp only [hrefused] at h
      cases h
      exact fun hkind => by cases hkind

/-- A load that gets the lock, or has it, comes to what is read.  Any other fails for a reason that
is not in the snapshot. -/
theorem load_reads (hnull : vault.base.hasNull = false) (disk : Disk) :
    ((vault.load disk).vault.isLocked = true ∧
        (vault.load disk).result = vault.readGraph (vault.load disk).disk) ∨
      ((vault.load disk).vault.isLocked = false ∧ ¬ FailsToParse (vault.load disk).result) := by
  unfold load
  cases hguard : vault.guard? with
  | some lock =>
    simp only [hnull, Bool.false_eq_true, if_false]
    refine .inl ⟨?_, trivial⟩
    rw [isLocked, hguard]
    rfl
  | none =>
    have hfree : vault.isLocked = false := by
      rw [isLocked, hguard]
      rfl
    simp only
    split
    · refine .inr ⟨hfree, ?_⟩
      rintro ⟨fault, hresult, -⟩
      cases hresult
    · split
      · next hacquire =>
        refine .inr ⟨hfree, ?_⟩
        rintro ⟨fault, hresult, hkind⟩
        cases hresult
        exact kind_of_acquire hacquire hkind
      · next hacquire =>
        obtain ⟨-, rfl⟩ := isFolder_of_acquire hacquire
        exact .inl ⟨rfl, rfl⟩

/-- A graph that is read is well named. -/
theorem isWellNamed_readGraph {graph : Graph} (h : vault.readGraph disk = .ok graph) :
    graph.IsWellNamed := by
  unfold readGraph at h
  split at h
  · cases h
  · cases h
    exact Graph.isWellNamed_empty
  · exact Graph.isWellNamed_ofChars h

/-- A vault from which a graph was loaded is ready, if it took its lock for that or had its
folder before. -/
theorem isReady_load {graph : Graph} (h : (vault.load disk).result = .ok graph)
    (hfolder : vault.guard? = none ∨ disk.isFolder vault.folder = true) :
    IsReady (vault.load disk).disk (vault.load disk).vault ∧ graph.IsWellNamed := by
  unfold load at h ⊢
  cases hguard : vault.guard? with
  | some lock =>
    have hthere := hfolder.resolve_left (by simp [hguard])
    by_cases hnull : vault.base.hasNull = true
    · simp [hguard, hnull] at h
    · simp only [hguard, if_neg hnull] at h ⊢
      exact ⟨⟨by simpa using hnull, hthere⟩, isWellNamed_readGraph h⟩
  | none =>
    simp only [hguard] at h ⊢
    cases hobstacle : vault.obstacle? disk with
    | some mishap => simp [hobstacle] at h
    | none =>
      have hnull := hasNull_of_obstacle? hobstacle
      simp only [hobstacle] at h ⊢
      cases hacquire : vault.acquire disk with
      | mk disk' result =>
        cases result with
        | error fault => simp [hacquire] at h
        | ok vault' =>
          obtain ⟨hthere, rfl⟩ := isFolder_of_acquire hacquire
          simp only [hacquire] at h ⊢
          exact ⟨⟨hnull, hthere⟩, isWellNamed_readGraph h⟩

/-- Loading does not make a vault look elsewhere. -/
theorem base_load (disk : Disk) (vault : Vault) : (vault.load disk).vault.base = vault.base := by
  unfold load
  split
  · split <;> rfl
  · split
    · rfl
    · split
      · rfl
      · next hacquire =>
        obtain ⟨-, rfl⟩ := isFolder_of_acquire hacquire
        rfl

/-- Handles on one base folder have one snapshot file. -/
theorem stateFile_eq_of_base {vault' : Vault} (h : vault'.base = vault.base) :
    vault'.stateFile = vault.stateFile := by
  rw [stateFile, stateFile, folder, folder, h]

/-! Storing. -/

/-- A handle whose folder is ready has no obstacle. -/
theorem IsReady.obstacle?_eq_none (h : IsReady disk vault) : vault.obstacle? disk = none := by
  simp [obstacle?, h.named, Disk.isTooFar_of_isFolder h.folder]

/-- To store a graph in a vault that is ready is to write its snapshot, and nothing else; the
disk is left as it is if that is refused. -/
theorem IsReady.store (h : IsReady disk vault) (graph : Graph) (refused? : Option Disk.Refusal) :
    (refused? = none ∧ ∃ disk', vault.store disk graph refused? = (disk', .ok ()) ∧
        disk.writeFile vault.stateFile (Utf8.encode graph.snapshot) = .ok disk') ∨
      ∃ r, vault.store disk graph refused? =
        (disk, .error (.fault (.cannotWrite vault.stateFile r))) := by
  unfold Vault.store
  rw [h.obstacle?_eq_none]
  simp only [Disk.ensureFolder_of_isFolder h.folder]
  cases refused? with
  | some r => exact .inr ⟨r, rfl⟩
  | none =>
    cases hwrite : disk.writeFile vault.stateFile (Utf8.encode graph.snapshot) with
    | error r => exact .inr ⟨r, by simp only⟩
    | ok disk' => exact .inl ⟨rfl, disk', by simp only, rfl⟩

/-- Writing a file leaves the folder ready. -/
theorem IsReady.writeFile (h : IsReady disk vault) {loc : Location} {bytes : List UInt8}
    (hwrite : disk.writeFile loc bytes = .ok disk') : IsReady disk' vault :=
  ⟨h.named, Disk.isFolder_of_writeFile hwrite h.folder⟩

/-- A file that holds the snapshot of a graph is read as the snapshot is. -/
theorem readGraph_eq_ofSnapshot {graph : Graph} (h : graph.IsWellNamed)
    (hread : disk.readFile vault.stateFile = .ok (Utf8.encode graph.snapshot)) :
    vault.readGraph disk = Graph.ofSnapshot graph.snapshot := by
  simp only [readGraph, readState, hread, Utf8.decode_encode, Graph.foldLineEnds_snapshot h,
    Graph.ofSnapshot]

/-- A file that holds the snapshot of a graph is read as the graph, with its names in order. -/
theorem readGraph_of_readFile {levels : Nat} {graph : Graph} (h : graph.IsWellNamed)
    (hnested : graph.IsNested levels) (hlevels : levels < Node.nodeDepth)
    (hread : disk.readFile vault.stateFile = .ok (Utf8.encode graph.snapshot)) :
    vault.readGraph disk = .ok graph.canonical := by
  rw [readGraph_eq_ofSnapshot h hread, Graph.ofSnapshot_snapshot h hnested hlevels]

/-- **What was stored is loaded.** -/
theorem readGraph_of_writeFile {levels : Nat} {graph : Graph} (h : graph.IsWellNamed)
    (hnested : graph.IsNested levels) (hlevels : levels < Node.nodeDepth)
    (hwrite : disk.writeFile vault.stateFile (Utf8.encode graph.snapshot) = .ok disk') :
    vault.readGraph disk' = .ok graph.canonical :=
  readGraph_of_readFile h hnested hlevels (Disk.readFile_of_writeFile hwrite)

end Vault

end TaskTree
