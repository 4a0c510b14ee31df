import TaskTree.Console.Run
import TaskTree.Proofs.Graph.Likeness
import TaskTree.Proofs.Store.Agreement
import TaskTree.Proofs.Vault.Lock

/-!
# Sessions that are opened again

A graph can be changed by one long session, or by a session for each command that is opened and
closed again, as each run of the program does.  What a command comes to, and what the file of the
snapshot then holds, can be told from the graph alone (`Graph.records`), and both ways bear it
out: the long session since it has the graph in memory, and the short ones since the file gives
back a graph that looks like it.  So the two leave the same records (`apart_eq_together`).

A refused command is not saved, so the graph has to be as before it: this is why no move may lose
its node.
-/

namespace TaskTree

/-- What a command came to, and what the file of the snapshot holds after it. -/
structure Record where
  result : Except Failure Unit
  snapshot : Except Disk.Refusal (List UInt8)

namespace Graph

variable {graph graph' : Graph}

/-- What comes of a command, by the graph and by what the file of the snapshot held before. -/
def record (graph : Graph) (before : Except Disk.Refusal (List UInt8)) (command : Command) :
    Record :=
  let change := graph.execute command
  match change.fault? with
  | some fault => ⟨.error (.fault fault), before⟩
  | none => ⟨.ok (), .ok (Utf8.encode change.graph.snapshot)⟩

/-- A refused command is recorded with its fault, and the snapshot stays. -/
theorem record_of_refused {before : Except Disk.Refusal (List UInt8)} {command : Command}
    {fault : Fault} (h : (graph.execute command).fault? = some fault) :
    graph.record before command = ⟨.error (.fault fault), before⟩ := by
  simp only [record, h]

/-- A command that is done is recorded with the new snapshot. -/
theorem record_of_done {before : Except Disk.Refusal (List UInt8)} {command : Command}
    (h : (graph.execute command).fault? = none) : graph.record before command =
      ⟨.ok (), .ok (Utf8.encode (graph.execute command).graph.snapshot)⟩ := by
  simp only [record, h]

/-- What comes of commands, one after another. -/
def records (graph : Graph) (before : Except Disk.Refusal (List UInt8)) : List Command → List Record
  | [] => []
  | command :: rest =>
    let now := graph.record before command
    now :: records (graph.execute command).graph now.snapshot rest

/-- No graph of a run is nested deeper than this. -/
def StaysNested (levels : Nat) (graph : Graph) : List Command → Prop
  | [] => graph.IsNested levels
  | command :: rest =>
    graph.IsNested levels ∧ StaysNested levels (graph.execute command).graph rest

instance decidableStaysNested (levels : Nat) : (graph : Graph) → (commands : List Command) →
    Decidable (graph.StaysNested levels commands)
  | graph, [] => inferInstanceAs (Decidable (graph.IsNested levels))
  | graph, command :: rest =>
    have : Decidable (StaysNested levels (graph.execute command).graph rest) :=
      decidableStaysNested levels (graph.execute command).graph rest
    inferInstanceAs (Decidable (_ ∧ _))

/-- Of graphs that look alike the same is recorded. -/
theorem Alike.record (h : Alike graph graph') (hnamed : graph.IsWellNamed)
    (hnamed' : graph'.IsWellNamed) (before : Except Disk.Refusal (List UInt8))
    (command : Command) : graph.record before command = graph'.record before command := by
  have hend := h.execute command
  have hsnapshot : (graph.execute command).graph.snapshot =
      (graph'.execute command).graph.snapshot := by
    rw [← snapshot_canonical, ← snapshot_canonical (graph'.execute command).graph,
      canonical_eq_of_alike (hnamed.execute command) (hnamed'.execute command) hend.graph]
  simp only [Graph.record, hend.fault, hsnapshot]

/-- Like graphs have the same records. -/
theorem Alike.records (h : Alike graph graph') (hnamed : graph.IsWellNamed)
    (hnamed' : graph'.IsWellNamed) (before : Except Disk.Refusal (List UInt8))
    (commands : List Command) : graph.records before commands = graph'.records before commands := by
  induction commands generalizing graph graph' before with
  | nil => rfl
  | cons command rest ih =>
    have hrest := ih (h.execute command).graph (hnamed.execute command) (hnamed'.execute command)
    simp only [Graph.records, h.record hnamed hnamed', hrest]

/-- The file of the snapshot tells a graph: the empty one if there is no file. -/
def IsToldBy (graph : Graph) (snapshot : Except Disk.Refusal (List UInt8)) : Prop :=
  snapshot = .ok (Utf8.encode graph.snapshot) ∨
    graph = .empty ∧ ∃ loc, snapshot = .error ⟨.notFound, loc⟩

/-- After a command that loses no node, the file tells the graph. -/
theorem IsToldBy.record {snapshot : Except Disk.Refusal (List UInt8)} (h : graph.IsToldBy snapshot)
    {command : Command} (hkept : ¬ graph.LosesNode command) :
    (graph.execute command).graph.IsToldBy (graph.record snapshot command).snapshot := by
  cases hfault : (graph.execute command).fault? with
  | some fault =>
    rw [record_of_refused hfault, graph_execute_of_refused hkept (by rw [hfault]; rfl)]
    exact h
  | none =>
    rw [record_of_done hfault]
    exact .inl rfl

end Graph

namespace Vault

variable {disk disk' made : Disk} {vault : Vault} {place : Location}
  {snapshot : Except Disk.Refusal (List UInt8)}

/-- The folder of the snapshot is on the disk, the file of the snapshot can be written, and this is
what comes of reading it. -/
structure Keeps (disk : Disk) (vault : Vault) (place : Location)
    (snapshot : Except Disk.Refusal (List UInt8)) : Prop where
  settled : IsSettled disk vault place
  writable : ∃ home, disk.find true vault.stateFile = .ok home ∧
    disk.entry? home ≠ some .folder
  read : disk.readFile vault.stateFile = snapshot

/-- What happens to the lock file does not touch the snapshot. -/
theorem Keeps.change (h : Keeps disk vault place snapshot) (hsettled : IsSettled disk' vault place)
    (hsame : Disk.SameWays disk disk')
    (hentries : ∀ other, other ≠ place → disk'.entry? other = disk.entry? other) :
    Keeps disk' vault place snapshot := by
  obtain ⟨home, hfind, hfolder⟩ := h.writable
  have hfind' := hsame.find_eq_ok_iff.2 hfind
  have hhome : disk'.entry? home = disk.entry? home := by
    refine hentries home ?_
    intro heq
    exact h.settled.apart (heq ▸ hfind)
  refine ⟨hsettled, ⟨home, hfind', hhome ▸ hfolder⟩, ?_⟩
  rw [← h.read]
  unfold Disk.readFile Disk.look
  rw [hfind, hfind', Except.map, Except.map, hhome]

/-- Where there is no lock file, a handle gets the lock. -/
theorem Keeps.load (h : Keeps made vault place snapshot) (hreaches : Reaches disk vault made place)
    (hnone : made.entry? place = none) (hfree : vault.isLocked = false) :
    ∃ disk', vault.load disk = ⟨disk', vault.opened, vault.readGraph disk'⟩ ∧
      Keeps disk' vault place snapshot := by
  have hguard : vault.guard? = none := by simpa [isLocked] using hfree
  obtain ⟨disk', hcreate, hsettled, -⟩ := h.settled.createFile hnone
  obtain ⟨found, hfind, hputs⟩ := Disk.puts_of_createFile hcreate
  obtain rfl : found = place := Except.ok.inj (hfind.symm.trans h.settled.found)
  refine ⟨disk', ?_, h.change hsettled hputs.sameWays fun other hother => ?_⟩
  · simp only [Vault.load, hguard, hreaches.obstacle, acquire, hreaches.folder, createLock, hcreate]
    rfl
  · rw [hputs.entries, if_neg hother]

/-- A handle with the lock removes its lock file. -/
theorem Keeps.unlock (h : Keeps disk vault place snapshot) :
    ∃ disk', vault.opened.unlock disk = (disk', { vault with guard? := none }) ∧
      Keeps disk' vault place snapshot ∧ disk'.entry? place = none := by
  obtain ⟨disk', hremove, hclears⟩ :=
    h.settled.sound.removeFileIfPresent h.settled.found h.settled.lock
  have hsettled := h.settled.change hclears.sameWays (hclears.isSound h.settled.sound)
  refine ⟨disk', ?_, h.change hsettled hclears.sameWays fun other hother => ?_, hclears.entry⟩
  · simp only [Vault.unlock, opened, hremove]
  · rw [hclears.entries, if_neg hother]

/-- A graph can be stored, and the file then holds its snapshot. -/
theorem Keeps.store (h : Keeps disk vault place snapshot) (graph : Graph) :
    ∃ disk', vault.opened.store disk graph = (disk', .ok ()) ∧
      Keeps disk' vault place (.ok (Utf8.encode graph.snapshot)) := by
  obtain ⟨home, hfind, hfolder⟩ := h.writable
  obtain ⟨disk', hwrite⟩ : ∃ disk',
      disk.writeFile vault.stateFile (Utf8.encode graph.snapshot) = .ok disk' := by
    unfold Disk.writeFile
    simp only [hfind]
    split
    · next hentry => exact (hfolder hentry).elim
    · exact ⟨_, rfl⟩
    · exact ⟨_, rfl⟩
    · exact ⟨_, rfl⟩
    · exact ⟨_, rfl⟩
  have hready : IsReady disk vault.opened := ⟨h.settled.named, h.settled.isReady.folder⟩
  have hstore : vault.opened.store disk graph = (disk', .ok ()) := by
    unfold Vault.store
    rw [hready.obstacle?_eq_none]
    simp only [Disk.ensureFolder_of_isFolder hready.folder]
    have hwrite' : disk.writeFile vault.opened.stateFile (Utf8.encode graph.snapshot) =
        .ok disk' := hwrite
    simp only [hwrite']
  obtain ⟨written, e, hfind', he, hputs⟩ := Disk.puts_of_writeFile hwrite
  have hsettled := h.settled.change hputs.sameWays
    (hputs.isSound h.settled.sound (Disk.entry?_parent_of_find hfind'))
  refine ⟨disk', hstore, hsettled, ⟨written, hputs.find hfind', ?_⟩,
    Disk.readFile_of_writeFile hwrite⟩
  rw [hputs.entry]
  rcases he with rfl | rfl
  · exact fun heq => by cases heq
  · exact fun heq => by cases heq

/-- What the file tells of a graph is read as a graph that looks like it. -/
theorem Keeps.readGraph (h : Keeps disk vault place snapshot) {graph : Graph}
    (htold : graph.IsToldBy snapshot) (hnamed : graph.IsWellNamed) (hnested : graph.IsNested 60) :
    ∃ read, vault.readGraph disk = .ok read ∧ Graph.Alike read graph ∧ read.IsWellNamed := by
  rcases htold with htold | ⟨rfl, loc, htold⟩
  · have hread := readGraph_of_readFile hnamed hnested (by decide) (h.read.trans htold)
    exact ⟨_, hread, Graph.canonical_alike hnamed, isWellNamed_readGraph hread⟩
  · refine ⟨.empty, ?_, Graph.Alike.refl _, hnamed⟩
    simp only [Vault.readGraph, readState, h.read, htold, if_true]

/-- The folder of the snapshot can be used, and there is neither a lock file nor a snapshot in it,
but a place for both. -/
structure IsBlank (disk : Disk) (vault : Vault) : Prop where
  usable : IsUsable disk vault
  unlocked : disk.holds vault.lockFile = false
  missing : ∀ made, disk.ensureFolder vault.folder = (made, .ok ()) →
    made.look vault.stateFile = .ok none

/-- On a blank disk a handle finds no snapshot. -/
theorem IsBlank.keeps (h : IsBlank disk vault) :
    ∃ made place, Reaches disk vault made place ∧ made.entry? place = none ∧
      Keeps made vault place (.error ⟨.notFound, vault.stateFile⟩) := by
  obtain ⟨made, place, hreaches, hlock⟩ := h.usable
  have hnone : made.entry? place = none := by
    rw [← Option.not_isSome_iff_eq_none, ← hreaches.holds_eq hlock, h.unlocked]
    exact Bool.false_ne_true
  have hlook := h.missing made hreaches.folder
  refine ⟨made, place, hreaches, hnone, hreaches.settled, ?_, ?_⟩
  · unfold Disk.look at hlook
    cases hfind : made.find true vault.stateFile with
    | error r => simp [hfind, Except.map] at hlook
    | ok home =>
      simp only [hfind, Except.map, Except.ok.injEq] at hlook
      exact ⟨home, rfl, by simp [hlook]⟩
  · rw [Disk.readFile, hlook]

/-- The root of an empty disk is blank. -/
theorem isBlank_root (hbase : vault.base = ⟨.root, []⟩) : IsBlank .empty vault := by
  obtain ⟨base, staleAfter, guard?⟩ := vault
  obtain rfl : base = ⟨.root, []⟩ := hbase
  have hapart : ((Disk.ensureFolder .empty (folder ⟨⟨.root, []⟩, staleAfter, guard?⟩)).1).find true
      (stateFile ⟨⟨.root, []⟩, staleAfter, guard?⟩) ≠
        .ok (lockFile ⟨⟨.root, []⟩, staleAfter, guard?⟩) := by
    intro heq
    have hnames : (["hyperlog", "graph.json"] : List String) = ["hyperlog", "graph.lock"] :=
      congrArg Location.names (Except.ok.inj heq)
    exact absurd hnames (by decide)
  obtain ⟨husable, hlock⟩ := isUsable_of_noLock Disk.isSound_empty rfl rfl rfl rfl hapart
  refine ⟨husable, hlock, fun made hmade => ?_⟩
  obtain rfl := congrArg Prod.fst hmade
  rfl

end Vault

namespace Session

variable {disk made : Disk} {vault : Vault} {session : Session} {place : Location}
  {snapshot : Except Disk.Refusal (List UInt8)}

/-- Execute commands one after another in a session that stays open. -/
def together (disk : Disk) (session : Session) : List Command → Disk × Session × List Record
  | [] => (disk, session, [])
  | command :: rest =>
    let after := session.execute disk command
    let (disk', session', records) := together after.disk after.session rest
    (disk', session', ⟨after.result, after.disk.readFile session.vault.stateFile⟩ :: records)

/-- Open a session for one command, execute it, and close the session. -/
def once (disk : Disk) (vault : Vault) (capacity : Int) (command : Command) :
    Disk × Except Failure Unit :=
  match Session.start disk vault capacity with
  | (disk, .error failure) => (disk, .error failure)
  | (disk, .ok session) =>
    let after := session.execute disk command
    ((after.session.finish after.disk).1, after.result)

/-- Execute commands one after another, each in a session of its own. -/
def apart (vault : Vault) (capacity : Int) (disk : Disk) : List Command → Disk × List Record
  | [] => (disk, [])
  | command :: rest =>
    let (disk, result) := once disk vault capacity command
    let (disk', records) := apart vault capacity disk rest
    (disk', ⟨result, disk.readFile vault.stateFile⟩ :: records)

/-- A command in a session comes to what is recorded of its graph. -/
theorem execute_recorded (h : vault.Keeps disk place snapshot)
    (hvault : session.vault = vault.opened) (command : Command) :
    let after := session.execute disk command
    let now := session.graph.record snapshot command
    after.result = now.result ∧ vault.Keeps after.disk place now.snapshot := by
  intro after now
  cases hfault : (session.graph.execute command).fault? with
  | some fault =>
    have hafter : after = ⟨disk, { session with graph := (session.graph.execute command).graph },
        .error (.fault fault)⟩ := by
      simp only [after, Session.execute, hfault]
    have hnow : now = ⟨.error (.fault fault), snapshot⟩ := Graph.record_of_refused hfault
    rw [hafter, hnow]
    exact ⟨rfl, h⟩
  | none =>
    obtain ⟨disk', hstore, hkeeps⟩ := h.store (session.graph.execute command).graph
    have hafter : after.result = .ok () ∧ after.disk = disk' := by
      simp only [after, Session.execute, hfault, hvault, hstore, and_self]
    have hnow : now = _ := Graph.record_of_done hfault
    rw [hnow, hafter.1, hafter.2]
    exact ⟨rfl, hkeeps⟩

/-- A session that starts has the lock and a graph that looks like the one that the file tells. -/
theorem start_told {graph : Graph} (hfree : vault.isLocked = false)
    (hreaches : vault.Reaches disk made place) (hnone : made.entry? place = none)
    (h : vault.Keeps made place snapshot) (htold : graph.IsToldBy snapshot)
    (hnamed : graph.IsWellNamed) (hnested : graph.IsNested 60) (capacity : Int) :
    ∃ disk' session, Session.start disk vault capacity = (disk', .ok session) ∧
      session.vault = vault.opened ∧ Graph.Alike session.graph graph ∧ session.graph.IsWellNamed ∧
      vault.Keeps disk' place snapshot := by
  obtain ⟨disk', hload, hkeeps⟩ := h.load hreaches hnone hfree
  obtain ⟨read, hread, halike, hnamed'⟩ := hkeeps.readGraph htold hnamed hnested
  refine ⟨disk', ⟨vault.opened, read, .withCapacity capacity⟩, ?_, rfl, halike, hnamed', hkeeps⟩
  simp only [Session.start, hload, hread]

/-- **One session for one command.**  It comes to what is recorded of the graph that the file
tells, and leaves no lock file. -/
theorem once_recorded {graph : Graph} (hfree : vault.isLocked = false)
    (hreaches : vault.Reaches disk made place) (hnone : made.entry? place = none)
    (h : vault.Keeps made place snapshot) (htold : graph.IsToldBy snapshot)
    (hnamed : graph.IsWellNamed) (hnested : graph.IsNested 60) (capacity : Int)
    (command : Command) :
    ∃ disk', once disk vault capacity command = (disk', (graph.record snapshot command).result) ∧
      vault.Keeps disk' place (graph.record snapshot command).snapshot ∧
      disk'.entry? place = none := by
  obtain ⟨started, session, hstart, hvault, halike, hnamed', hkeeps⟩ :=
    start_told hfree hreaches hnone h htold hnamed hnested capacity
  obtain ⟨hresult, hafter⟩ := execute_recorded hkeeps hvault command
  rw [halike.record hnamed' hnamed] at hresult hafter
  obtain ⟨disk', hunlock, hclosed, hgone⟩ := hafter.unlock
  refine ⟨disk', ?_, hclosed, hgone⟩
  simp only [once, hstart, Session.finish, vault_execute, hvault, hunlock, hresult]

/-- The long session leaves the records of its graph.  If none of them loses a node, the file tells
the graph in the end. -/
theorem together_recorded (h : vault.Keeps disk place snapshot)
    (hvault : session.vault = vault.opened) (commands : List Command) :
    let done := together disk session commands
    done.2.2 = session.graph.records snapshot commands ∧ done.2.1.vault = vault.opened ∧
      ∃ snapshot', vault.Keeps done.1 place snapshot' ∧
        (session.graph.IsToldBy snapshot → session.graph.KeepsNodes commands →
          (session.graph.run commands).IsToldBy snapshot') := by
  induction commands generalizing disk session snapshot with
  | nil => exact ⟨rfl, hvault, snapshot, h, fun htold _ => htold⟩
  | cons command rest ih =>
    obtain ⟨hresult, hafter⟩ := execute_recorded h hvault command
    obtain ⟨hrecords, hdone, snapshot', hkeeps, htold⟩ :=
      ih hafter ((vault_execute ..).trans hvault)
    rw [graph_execute] at hrecords htold
    refine ⟨?_, hdone, snapshot', hkeeps, fun hbefore hkept => ?_⟩
    · have hfile := hafter.read
      have hstate : session.vault.stateFile = vault.stateFile := by
        rw [hvault]
        rfl
      simp only [together, Graph.records, hresult, hrecords, hstate, hfile]
    · exact htold (hbefore.record hkept.1) hkept.2

/-- The short sessions leave the records of the graph that the file tells. -/
theorem apart_recorded {graph : Graph} (hfree : vault.isLocked = false)
    (hreaches : vault.Reaches disk made place) (hnone : made.entry? place = none)
    (h : vault.Keeps made place snapshot) (htold : graph.IsToldBy snapshot)
    (hnamed : graph.IsWellNamed) (capacity : Int) {commands : List Command}
    (hnested : graph.StaysNested 60 commands) (hkept : graph.KeepsNodes commands) :
    let done := apart vault capacity disk commands
    done.2 = graph.records snapshot commands ∧
      (commands = [] ∧ done.1 = disk ∨
        vault.IsSettled done.1 place ∧ Disk.entry? done.1 place = none) := by
  induction commands generalizing disk made graph snapshot with
  | nil => exact ⟨rfl, .inl ⟨rfl, rfl⟩⟩
  | cons command rest ih =>
    obtain ⟨disk', honce, hkeeps, hgone⟩ :=
      once_recorded hfree hreaches hnone h htold hnamed hnested.1 capacity command
    obtain ⟨hrecords, hend⟩ := ih hkeeps.settled.reaches hgone hkeeps (htold.record hkept.1)
      (hnamed.execute command) hnested.2 hkept.2
    refine ⟨?_, .inr ?_⟩
    · simp only [apart, honce, Graph.records, hrecords, hkeeps.read]
    · simp only [apart, honce]
      rcases hend with ⟨-, heq⟩ | hend
      · rw [heq]
        exact ⟨hkeeps.settled, hgone⟩
      · exact hend

/-- **Closing and opening again is not seen.**  Commands that start from nothing, lose no node and
do not nest too deep come to the same ends, with the same bytes in the file of the snapshot after
each of them, whether each has a session of its own or all have one that is closed after them.  No
lock file remains in either case, and closing the long session leaves the snapshot as it is. -/
theorem apart_eq_together (hfree : vault.isLocked = false) (hblank : vault.IsBlank disk)
    (capacity : Int) {commands : List Command} (hnested : Graph.empty.StaysNested 60 commands)
    (hkept : Graph.empty.KeepsNodes commands) :
    ∃ opened first, Session.start disk vault capacity = (opened, .ok first) ∧
      let long := together opened first commands
      let closed := (long.2.1.finish long.1).1
      let short := apart vault capacity disk commands
      short.2 = long.2.2 ∧ closed.readFile vault.stateFile = long.1.readFile vault.stateFile ∧
        short.1.holds vault.lockFile = false ∧ closed.holds vault.lockFile = false := by
  obtain ⟨made, place, hreaches, hnone, hkeeps⟩ := hblank.keeps
  have htold : Graph.empty.IsToldBy (.error ⟨.notFound, vault.stateFile⟩) := .inr ⟨rfl, _, rfl⟩
  have hempty := Graph.isWellNamed_empty
  have hshallow : Graph.empty.IsNested 60 := fun _ hentry => by cases hentry
  obtain ⟨opened, first, hstart, hvault, halike, hnamed, hopened⟩ :=
    start_told hfree hreaches hnone hkeeps htold hempty hshallow capacity
  obtain ⟨hlong, hlast, snapshot, hdone, -⟩ := together_recorded hopened hvault commands
  rw [halike.records hnamed hempty] at hlong
  obtain ⟨hshort, hend⟩ :=
    apart_recorded hfree hreaches hnone hkeeps htold hempty capacity hnested hkept
  obtain ⟨closed, hunlock, hclosed, hgone⟩ := hdone.unlock
  refine ⟨opened, first, hstart, hshort.trans hlong.symm, ?_, ?_, ?_⟩
  · simp only [Session.finish, hlast, hunlock, hclosed.read, hdone.read]
  · rcases hend with ⟨-, heq⟩ | ⟨hsettled, hfree⟩
    · rw [heq]
      exact hblank.unlocked
    · rw [hsettled.holds_eq, hfree]
      rfl
  · simp only [Session.finish, hlast, hunlock]
    rw [hclosed.settled.holds_eq, hgone]
    rfl

/-- Four commands are done and two are refused, one of them before there is a snapshot. -/
theorem apart_eq_together_refused :
    let vault : Vault := ⟨⟨.root, []⟩, 60, none⟩
    let commands : List Command :=
      [.createSection "r" ["a"], .createRoot "r", .createSection "r" ["a"],
       .createItem "r" ["x"] "x" "" .notDone, .move "r" ["y"] [], .move "r" ["x"] ["a"]]
    ∃ opened first, Session.start .empty vault 8 = (opened, .ok first) ∧
      let long := together opened first commands
      let closed := (long.2.1.finish long.1).1
      let short := apart vault 8 .empty commands
      short.2 = long.2.2 ∧ closed.readFile vault.stateFile = long.1.readFile vault.stateFile ∧
        short.1.holds vault.lockFile = false ∧ closed.holds vault.lockFile = false :=
  apart_eq_together rfl (Vault.isBlank_root rfl) 8 (by decide) (by decide)

end Session

namespace Console

/-- A run of the program that executes a command here opens a session for it and closes the
session. -/
theorem execute_here (settings : Settings) (transport : Transport) {invocation : Invocation}
    (hhere : invocation.backend = .here) (disk : Disk) (command : Command) :
    let after := Session.once disk settings.vault settings.eventCapacity command
    execute settings transport invocation disk command =
      { disk := after.1, result := after.2 } := by
  intro after
  simp only [execute, hhere, withSession, after, Session.once]
  cases Session.start disk settings.vault settings.eventCapacity with
  | mk disk' result => cases result <;> rfl

end Console

end TaskTree
