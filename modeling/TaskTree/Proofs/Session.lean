import TaskTree.Session
import TaskTree.Proofs.Events.Announcement
import TaskTree.Proofs.Vault

/-!
# Commands as units of work

A command can come to three ends (`IsSound.execute_cases`): the graph refuses
it, the snapshot cannot be written, or it is done.  A session stays sound
whatever the end, so after any run of commands, with the acts of subscribers in
between, the graph in memory is what all commands have made of the first one,
and a command that is done finds it on disk and tells everybody who listens
(`execute_together`).
-/

namespace TaskTree

/-- A graph after commands, one after another, whether they are done or refused. -/
def Graph.run (graph : Graph) (commands : List Command) : Graph :=
  commands.foldl (fun graph command => (graph.execute command).graph) graph

theorem Graph.run_concat (graph : Graph) (commands : List Command) (command : Command) :
    graph.run (commands ++ [command]) = ((graph.run commands).execute command).graph := by
  rw [run, List.foldl_append]
  rfl

/-- Commands can be run in two parts. -/
theorem Graph.run_append (graph : Graph) (commands more : List Command) :
    graph.run (commands ++ more) = (graph.run commands).run more :=
  List.foldl_append

namespace Session

variable {disk disk' : Disk} {session session' : Session}

/-- The graph of a session changes as the command changes it, whatever becomes of the disk. -/
theorem graph_execute (disk : Disk) (session : Session) (command : Command)
    (refused? : Option Disk.Refusal) :
    (session.execute disk command refused?).session.graph =
      (session.graph.execute command).graph := by
  unfold execute
  simp only
  split
  · rfl
  · split <;> rfl

/-- A command leaves the handle of a session as it is. -/
theorem vault_execute (disk : Disk) (session : Session) (command : Command)
    (refused? : Option Disk.Refusal) :
    (session.execute disk command refused?).session.vault = session.vault := by
  unfold execute
  simp only
  split
  · rfl
  · split <;> rfl

/-! One command. -/

/-- The vault of a session is ready, its graph can be written to a snapshot and read from it,
and its hub knows all who listen. -/
structure IsSound (disk : Disk) (session : Session) : Prop where
  ready : session.vault.IsReady disk
  named : session.graph.IsWellNamed
  kept : session.hub.IsKept

/-- **The ends of a command.**  The graph refuses it, perhaps after a change; or the graph is
changed and its snapshot cannot be written; or the snapshot is written and the command is
announced. -/
theorem IsSound.execute_cases (h : IsSound disk session) (command : Command)
    (refused? : Option Disk.Refusal) :
    let change := session.graph.execute command
    let changed := { session with graph := change.graph }
    (∃ fault, change.fault? = some fault ∧
      session.execute disk command refused? = ⟨disk, changed, .error (.fault fault)⟩) ∨
    (change.fault? = none ∧ ∃ r, session.execute disk command refused? =
      ⟨disk, changed, .error (.fault (.cannotWrite session.vault.stateFile r))⟩) ∨
    (change.fault? = none ∧ refused? = none ∧ ∃ disk',
      disk.writeFile session.vault.stateFile (Utf8.encode change.graph.snapshot) = .ok disk' ∧
      session.execute disk command refused? =
        ⟨disk', { changed with hub := session.hub.announce command }, .ok ()⟩) := by
  intro change changed
  unfold execute
  simp only
  cases hfault : (session.graph.execute command).fault? with
  | some fault => exact .inl ⟨fault, rfl, rfl⟩
  | none =>
    rcases h.ready.store (session.graph.execute command).graph refused? with
      ⟨hrefused, disk', hstore, hwrite⟩ | ⟨r, hstore⟩
    · refine .inr (.inr ⟨rfl, hrefused, disk', hwrite, ?_⟩)
      simp only [hstore]
      rfl
    · refine .inr (.inl ⟨rfl, r, ?_⟩)
      simp only [hstore]
      rfl

/-- An announcement leaves the hub in order. -/
theorem isKept_announce {hub : Events Command} (h : hub.IsKept) (command : Command) :
    (hub.announce command).IsKept :=
  h.same ((Events.sameAudience_producers hub _).trans (Events.sameAudience_runAll _))

/-- A command leaves a session sound, whatever comes of it. -/
theorem IsSound.execute (h : IsSound disk session) (command : Command)
    (refused? : Option Disk.Refusal) :
    IsSound (session.execute disk command refused?).disk
      (session.execute disk command refused?).session := by
  have hnamed := h.named.execute command
  rcases h.execute_cases command refused? with
    ⟨fault, -, hend⟩ | ⟨-, r, hend⟩ | ⟨-, -, disk', hwrite, hend⟩
  · rw [hend]
    exact ⟨h.ready, hnamed, h.kept⟩
  · rw [hend]
    exact ⟨h.ready, hnamed, h.kept⟩
  · rw [hend]
    exact ⟨h.ready.writeFile hwrite, hnamed, isKept_announce h.kept command⟩

/-! Runs. -/

/-- What becomes of a disk and a session as commands are executed one after another, each after
the announcement of the one before is over; the system may refuse to open the snapshot at any of
them, and subscribers may come, take and leave at any time. -/
inductive Leads (disk : Disk) (session : Session) : List Command → Disk → Session → Prop
  | start : Leads disk session [] disk session
  | attend {commands : List Command} {disk' : Disk} {next : Session}
      {taken : List (Nat × Command)} {hub : Events Command}
      (h : Leads disk session commands disk' next)
      (hattended : Events.Attended next.hub taken hub) :
      Leads disk session commands disk' { next with hub }
  | execute {commands : List Command} {disk' : Disk} {next : Session}
      (h : Leads disk session commands disk' next) (hquiet : next.hub.isBlocked = false)
      (command : Command) (refused? : Option Disk.Refusal) :
      Leads disk session (commands ++ [command]) (next.execute disk' command refused?).disk
        (next.execute disk' command refused?).session

/-- A run leaves a session sound, with the vault that it had. -/
theorem IsSound.leads (h : IsSound disk session) {commands : List Command}
    (hleads : Leads disk session commands disk' session') :
    IsSound disk' session' ∧ session'.vault = session.vault ∧
      session'.graph = session.graph.run commands := by
  induction hleads with
  | start => exact ⟨h, rfl, rfl⟩
  | attend _ hattended ih =>
    obtain ⟨hsound, hvault, hgraph⟩ := ih
    exact ⟨⟨hsound.ready, hsound.named, hsound.kept.attended hattended⟩, hvault, hgraph⟩
  | execute _ _ command refused? ih =>
    obtain ⟨hsound, hvault, hgraph⟩ := ih
    refine ⟨hsound.execute command refused?, ?_, ?_⟩
    · rw [vault_execute, hvault]
    · rw [graph_execute, hgraph, Graph.run_concat]

/-- A session that starts is sound, if its vault took the lock for it or had its folder
before. -/
theorem isSound_start {disk₀ : Disk} {vault : Vault} {capacity : Int}
    (hstart : Session.start disk₀ vault capacity = (disk, .ok session))
    (hfolder : vault.guard? = none ∨ disk₀.isFolder vault.folder = true) :
    IsSound disk session := by
  unfold Session.start at hstart
  simp only at hstart
  split at hstart
  · next hload =>
    cases hstart
    obtain ⟨hready, hnamed⟩ := Vault.isReady_load hload hfolder
    exact ⟨hready, hnamed, Events.isKept_withCapacity capacity⟩
  · cases hstart

/-- A session keeps the base folder it was started on. -/
theorem base_start {disk₀ : Disk} {vault : Vault} {capacity : Int}
    (hstart : Session.start disk₀ vault capacity = (disk, .ok session)) :
    session.vault.base = vault.base := by
  unfold Session.start at hstart
  simp only at hstart
  split at hstart
  · cases hstart
    exact Vault.base_load disk₀ vault
  · cases hstart

/-- A session keeps the snapshot file it was started on. -/
theorem stateFile_start {disk₀ : Disk} {vault : Vault} {capacity : Int}
    (hstart : Session.start disk₀ vault capacity = (disk, .ok session)) :
    session.vault.stateFile = vault.stateFile :=
  Vault.stateFile_eq_of_base (base_start hstart)

/-- What is read from the disk is the graph in memory. -/
def IsSaved (disk : Disk) (session : Session) : Prop :=
  ∃ graph, session.vault.readGraph disk = .ok graph ∧ Graph.Alike graph session.graph

/-- A command that is done has been saved. -/
theorem IsSound.isSaved_execute (h : IsSound disk session) {command : Command}
    {refused? : Option Disk.Refusal}
    (hnested : (session.graph.execute command).graph.IsNested 60)
    (hdone : (session.execute disk command refused?).result = .ok ()) :
    IsSaved (session.execute disk command refused?).disk
      (session.execute disk command refused?).session := by
  have hnamed := h.named.execute command
  rcases h.execute_cases command refused? with
    ⟨fault, -, hend⟩ | ⟨-, r, hend⟩ | ⟨-, -, disk', hwrite, hend⟩
  · rw [hend] at hdone
    cases hdone
  · rw [hend] at hdone
    cases hdone
  · rw [hend]
    exact ⟨_, Vault.readGraph_of_writeFile hnamed hnested (by decide) hwrite,
      Graph.canonical_alike hnamed⟩

/-- **Change, save and tell as one.**  At any point of a run, a command leaves in memory what all
commands so far have made of the graph, and comes to one of three ends.  If the graph refuses it,
the disk and the queues are as they were.  If the snapshot cannot be written, they are as they
were, too, and the next command that is done saves the change with its own.  If it is done, the
graph is saved, and the command comes once to each subscription that is open for it. -/
theorem execute_together {disk₀ disk₁ : Disk} {vault : Vault} {capacity : Int} {first : Session}
    (hstart : Session.start disk₀ vault capacity = (disk₁, .ok first))
    (hfolder : vault.guard? = none ∨ disk₀.isFolder vault.folder = true)
    {commands : List Command} (hleads : Leads disk₁ first commands disk session)
    (hquiet : session.hub.isBlocked = false) (command : Command)
    (refused? : Option Disk.Refusal)
    (hnested : (session.graph.execute command).graph.IsNested 60) :
    let after := session.execute disk command refused?
    after.session.graph = first.graph.run (commands ++ [command]) ∧
    ((∃ fault, (session.graph.execute command).fault? = some fault ∧
        after.result = .error (.fault fault) ∧ after.disk = disk ∧
        after.session.hub = session.hub) ∨
      ((session.graph.execute command).fault? = none ∧
        (∃ r, after.result = .error (.fault (.cannotWrite vault.stateFile r))) ∧
        after.disk = disk ∧ after.session.hub = session.hub ∧
        ∀ more disk' later next refused?', Leads after.disk after.session more disk' later →
          (later.graph.execute next).graph.IsNested 60 →
          (later.execute disk' next refused?').result = .ok () →
          IsSaved (later.execute disk' next refused?').disk
              (later.execute disk' next refused?').session ∧
            (later.execute disk' next refused?').session.graph =
              first.graph.run (commands ++ [command] ++ more ++ [next])) ∨
      ((session.graph.execute command).fault? = none ∧ refused? = none ∧ after.result = .ok () ∧
        IsSaved after.disk after.session ∧
        Events.Announced session.hub after.session.hub command)) := by
  intro after
  obtain ⟨hsound, hvault, hgraph⟩ := (isSound_start hstart hfolder).leads hleads
  have hmemory : after.session.graph = first.graph.run (commands ++ [command]) := by
    rw [graph_execute, hgraph, Graph.run_concat]
  have hfile : session.vault.stateFile = vault.stateFile := by
    rw [hvault]
    exact stateFile_start hstart
  refine ⟨hmemory, ?_⟩
  have hcases := hsound.execute_cases command refused?
  change (∃ fault, _ ∧ after = _) ∨ (_ ∧ ∃ r, after = _) ∨ (_ ∧ _ ∧ ∃ disk', _ ∧ after = _)
    at hcases
  rcases hcases with
    ⟨fault, hfault, hend⟩ | ⟨hfault, r, hend⟩ | ⟨hfault, hrefused, disk', hwrite, hend⟩
  · exact .inl ⟨fault, hfault, by rw [hend], by rw [hend], by rw [hend]⟩
  · refine .inr (.inl ⟨hfault, ⟨r, by rw [hend, hfile]⟩, by rw [hend], by rw [hend], ?_⟩)
    intro more disk' later next refused?' hmore hnested' hdone
    obtain ⟨hlater, -, hrun⟩ := (hsound.execute command refused?).leads hmore
    refine ⟨hlater.isSaved_execute hnested' hdone, ?_⟩
    rw [graph_execute, hrun, hmemory, ← Graph.run_append, Graph.run_concat]
  · have hdone : after.result = .ok () := by rw [hend]
    refine .inr (.inr ⟨hfault, hrefused, hdone, hsound.isSaved_execute hnested hdone, ?_⟩)
    rw [hend]
    exact Events.announced_announce hsound.kept hquiet command

/-- A root that could not be saved is saved with the section that is put into it, and the
subscriber hears of the section only. -/
theorem execute_together_behind :
    let vault : Vault := ⟨⟨.root, []⟩, 60, none⟩
    let disk : Disk :=
      ⟨0, [(vault.folder, .folder, 0), (vault.lockFile, .file Vault.lockPayload, 0)]⟩
    let first : Session :=
      ⟨{ vault with guard? := some vault.lockFile }, .empty, .withCapacity 1⟩
    let session : Session :=
      { first with graph := [("r", .emptyUser)], hub := first.hub.subscribe.1 }
    let after := session.execute disk (.createSection "r" ["a"])
    Session.start .empty vault 1 = (disk, .ok first) ∧
      Leads disk first [.createRoot "r"] disk session ∧
      after.session.graph = [("r", .branch .user [("a", .emptySection)])] ∧
      IsSaved after.disk after.session ∧
      Events.Announced session.hub after.session.hub (.createSection "r" ["a"]) := by
  intro vault disk first session after
  have hstart : Session.start .empty vault 1 = (disk, .ok first) := rfl
  have hleads : Leads disk first [.createRoot "r"] disk session :=
    .execute (.attend .start (.subscribe .start)) rfl (.createRoot "r")
      (some ⟨.notFound, vault.stateFile⟩)
  have hdone : after.result = .ok () := rfl
  obtain ⟨hgraph, hends⟩ := execute_together hstart (.inl rfl) hleads rfl
    (.createSection "r" ["a"]) none (by decide)
  refine ⟨hstart, hleads, hgraph, ?_⟩
  rcases hends with ⟨fault, -, hresult, -⟩ | ⟨-, ⟨r, hresult⟩, -⟩ | ⟨-, -, -, hsaved, htold⟩
  · cases hdone.symm.trans hresult
  · cases hdone.symm.trans hresult
  · exact ⟨hsaved, htold⟩

end Session

end TaskTree
