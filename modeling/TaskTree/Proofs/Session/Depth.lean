import TaskTree.Proofs.Graph.Depth
import TaskTree.Proofs.Graph.Size
import TaskTree.Proofs.Session.Reopening

/-!
# Snapshots that are too deep to be loaded

A session writes what its graph has become, however deep that is, and a load reads so many levels
and no more.  So a command can be done and leave a snapshot that cannot be loaded again: the load
fails to parse what the program itself has written (`load_fails_iff`).  This takes more commands
that create than there are levels to be read, and one more is enough (`isNested_burrowing_iff`).
-/

namespace TaskTree

namespace Graph

variable {graph : Graph} {levels : Nat}

/-- A snapshot fails to parse exactly if its graph is nested deeper than nodes are read. -/
theorem readBack_fails_iff :
    FailsToParse graph.readBack ↔ ¬ graph.IsNested (Node.nodeDepth - 1) := by
  unfold readBack
  constructor
  · rintro ⟨fault, hresult, -⟩ hnested
    rw [if_pos hnested] at hresult
    cases hresult
  · intro hdeep
    rw [if_neg hdeep]
    split
    · exact ⟨_, rfl, rfl⟩
    · exact ⟨_, rfl, rfl⟩

/-- No command of a run that is done reaches further than this over the graph that it finds. -/
def StaysWithin (levels : Nat) (graph : Graph) : List Command → Prop
  | [] => True
  | command :: rest =>
    ((graph.execute command).fault? = none → graph.reach command ≤ levels) ∧
      StaysWithin levels (graph.execute command).graph rest

/-- A run keeps names legal. -/
theorem IsWellNamed.run (h : graph.IsWellNamed) (commands : List Command) :
    (graph.run commands).IsWellNamed := by
  induction commands generalizing graph with
  | nil => exact h
  | cons command rest ih => exact ih (h.execute command)

/-- A run that stays within some levels keeps a graph nested within them. -/
theorem IsNested.run (hnamed : graph.IsWellNamed) (h : graph.IsNested levels)
    {commands : List Command} (hwithin : graph.StaysWithin levels commands) :
    (graph.run commands).IsNested levels := by
  induction commands generalizing graph with
  | nil => exact h
  | cons command rest ih =>
    refine ih (hnamed.execute command) ?_ hwithin.2
    cases hfault : (graph.execute command).fault? with
    | none => exact h.execute hnamed (hwithin.1 hfault)
    | some fault => exact h.execute_of_refused hnamed (by rw [hfault]; rfl)

/-- A run brings no more names into a graph than it has commands that create. -/
theorem size_run (graph : Graph) (commands : List Command) :
    (graph.run commands).size ≤ graph.size + commands.countP (·.creates) := by
  induction commands generalizing graph with
  | nil => exact Nat.le_refl _
  | cons command rest ih =>
    have hstep := graph.size_execute command
    have hrest := ih (graph.execute command).graph
    rw [List.countP_cons]
    change size (run (graph.execute command).graph rest) ≤ _
    cases hcreates : command.creates with
    | false =>
      rw [hcreates, Bool.toNat_false] at hstep
      simp only [Bool.false_eq_true, if_false]
      omega
    | true =>
      rw [hcreates, Bool.toNat_true] at hstep
      simp only [if_true]
      omega

end Graph

namespace Vault

variable {disk : Disk} {vault : Vault}

/-- A load that finds the snapshot of a graph in its file comes to what is read back of the graph,
and fails to parse exactly if that is too deep. -/
theorem load_snapshot {graph : Graph} (hnamed : graph.IsWellNamed)
    (hnull : vault.base.hasNull = false) {disk : Disk}
    (hfile : (vault.load disk).disk.readFile vault.stateFile =
      .ok (Utf8.encode graph.snapshot)) :
    ((vault.load disk).vault.isLocked = true → (vault.load disk).result = graph.readBack) ∧
      (FailsToParse (vault.load disk).result ↔
        (vault.load disk).vault.isLocked = true ∧ ¬ graph.IsNested (Node.nodeDepth - 1)) := by
  have hread : vault.readGraph (vault.load disk).disk = graph.readBack := by
    rw [readGraph_eq_ofSnapshot hnamed hfile, Graph.ofSnapshot_snapshot_eq hnamed]
  rcases load_reads hnull disk with ⟨hlocked, hresult⟩ | ⟨hfree, hother⟩
  · rw [hresult, hread, hlocked, Graph.readBack_fails_iff]
    exact ⟨fun _ => rfl, fun h => ⟨rfl, h⟩, fun h => h.2⟩
  · rw [hfree]
    exact ⟨fun h => (nomatch h), fun h => (hother h).elim, fun h => (nomatch h.1)⟩

/-- A session that starts on a blank disk has an empty graph. -/
theorem IsBlank.start (h : IsBlank disk vault) (hfree : vault.isLocked = false) (capacity : Int) :
    ∃ opened place,
      Session.start disk vault capacity =
        (opened, .ok ⟨vault.opened, .empty, .withCapacity capacity⟩) ∧
      Keeps opened vault place (.error ⟨.notFound, vault.stateFile⟩) := by
  obtain ⟨made, place, hreaches, hnone, hkeeps⟩ := h.keeps
  obtain ⟨opened, hload, hopened⟩ := hkeeps.load hreaches hnone hfree
  refine ⟨opened, place, ?_, hopened⟩
  have hread : vault.readGraph opened = .ok .empty := by
    simp only [readGraph, readState, hopened.read, if_true]
  simp only [Session.start, hload, hread]

end Vault

namespace Session

variable {disk : Disk} {session : Session}

/-- A command that is done leaves the snapshot of its graph in the file. -/
theorem IsSound.readFile_execute (h : IsSound disk session) {command : Command}
    {refused? : Option Disk.Refusal}
    (hdone : (session.execute disk command refused?).result = .ok ()) :
    (session.graph.execute command).fault? = none ∧
      (session.execute disk command refused?).disk.readFile session.vault.stateFile =
        .ok (Utf8.encode (session.graph.execute command).graph.snapshot) := by
  rcases h.execute_cases command refused? with
    ⟨fault, -, hend⟩ | ⟨-, r, hend⟩ | ⟨hfault, -, disk', hwrite, hend⟩
  · rw [hend] at hdone
    cases hdone
  · rw [hend] at hdone
    cases hdone
  · rw [hend]
    exact ⟨hfault, Disk.readFile_of_writeFile hwrite⟩

/-- **Which snapshots cannot be loaded.**  In a session that starts from nothing a command is done
and leaves its snapshot.  A later load that finds it gives the graph back or fails to parse it, and
fails exactly if the graph is nested deeper than nodes are read.  If no command before reached
further than that, then it lies in the reach of this one, and it takes more commands that create
than there are levels. -/
theorem load_fails_iff {disk₀ disk₁ : Disk} {vault : Vault} {capacity : Int} {first : Session}
    (hstart : Session.start disk₀ vault capacity = (disk₁, .ok first))
    (hfolder : vault.guard? = none ∨ disk₀.isFolder vault.folder = true)
    (hempty : first.graph = .empty) {commands : List Command}
    (hleads : Leads disk₁ first commands disk session) (command : Command)
    (refused? : Option Disk.Refusal)
    (hdone : (session.execute disk command refused?).result = .ok ()) :
    let after := session.execute disk command refused?
    let graph := after.session.graph
    (∀ (later : Disk) (reader : Vault), reader.base = vault.base →
      let loaded := reader.load later
      loaded.disk.readFile reader.stateFile = after.disk.readFile vault.stateFile →
        (loaded.vault.isLocked = true → loaded.result = graph.readBack) ∧
          (FailsToParse loaded.result ↔
            loaded.vault.isLocked = true ∧ ¬ graph.IsNested (Node.nodeDepth - 1))) ∧
      (first.graph.StaysWithin (Node.nodeDepth - 1) commands →
        (graph.IsNested (Node.nodeDepth - 1) ↔
          session.graph.reach command ≤ Node.nodeDepth - 1)) ∧
      ((commands ++ [command]).countP (·.creates) ≤ Node.nodeDepth →
        graph.IsNested (Node.nodeDepth - 1)) := by
  intro after graph
  have hfirst := isSound_start hstart hfolder
  obtain ⟨hsound, hvault, hrun⟩ := hfirst.leads hleads
  obtain ⟨hfault, hfile⟩ := hsound.readFile_execute hdone
  have hgraph : graph = (session.graph.execute command).graph := graph_execute ..
  have hstate : session.vault.stateFile = vault.stateFile := by
    rw [hvault]
    exact stateFile_start hstart
  refine ⟨?_, fun hwithin => ?_, fun hcount => ?_⟩
  · intro later reader hbase loaded hsame
    have hnamed : graph.IsWellNamed := hgraph ▸ hsound.named.execute command
    have hnull : reader.base.hasNull = false := by
      rw [hbase, ← base_start hstart, ← hvault]
      exact hsound.ready.named
    refine Vault.load_snapshot hnamed hnull ?_
    rw [hgraph, ← hfile, hstate]
    exact hsame
  · have hbefore : session.graph.IsNested (Node.nodeDepth - 1) := by
      rw [hrun]
      refine Graph.IsNested.run hfirst.named ?_ hwithin
      rw [hempty]
      exact fun _ hentry => by cases hentry
    rw [hgraph]
    exact Graph.isNested_execute_iff hsound.named hbefore hfault
  · have hsize := first.graph.size_run (commands ++ [command])
    have hnone : first.graph.size = 0 := by
      rw [hempty]
      rfl
    rw [Graph.run_concat, ← hrun, ← hgraph, hnone] at hsize
    intro entry hmem
    have := graph.isNested_size entry hmem
    omega

/-- A root that could not be saved is saved with a section in it, and the handle loads them. -/
theorem load_fails_iff_shallow :
    let vault : Vault := ⟨⟨.root, []⟩, 60, none⟩
    let disk : Disk :=
      ⟨0, [(vault.folder, .folder, 0), (vault.lockFile, .file Vault.lockPayload, 0)]⟩
    let first : Session := ⟨vault.opened, .empty, .withCapacity 1⟩
    let session : Session := { first with graph := [("r", .emptyUser)] }
    let after := session.execute disk (.createSection "r" ["a"])
    Session.start .empty vault 1 = (disk, .ok first) ∧
      Leads disk first [.createRoot "r"] disk session ∧ after.result = .ok () ∧
      (vault.opened.load after.disk).result = after.session.graph.readBack ∧
      ¬ FailsToParse (vault.opened.load after.disk).result := by
  intro vault disk first session after
  have hstart : Session.start .empty vault 1 = (disk, .ok first) := rfl
  have hleads : Leads disk first [.createRoot "r"] disk session :=
    .execute .start rfl (.createRoot "r") (some ⟨.notFound, vault.stateFile⟩)
  have hdone : after.result = .ok () := rfl
  obtain ⟨hload, -, hcount⟩ := load_fails_iff hstart (.inl rfl) rfl hleads
    (.createSection "r" ["a"]) none hdone
  obtain ⟨hread, hfails⟩ := hload after.disk vault.opened rfl rfl
  have hshallow : after.session.graph.IsNested (Node.nodeDepth - 1) := hcount (by decide)
  exact ⟨hstart, hleads, hdone, hread rfl, fun h => (hfails.1 h).2 hshallow⟩

/-! A run that goes as deep as one likes. -/

/-- Commands that put sections below each other, the first one below a path of so many names. -/
def burrow (above : Nat) : Nat → List Command
  | 0 => []
  | n + 1 => .createSection "r" (List.replicate (above + 1) "x") :: burrow (above + 1) n

theorem length_burrow (above n : Nat) : (burrow above n).length = n := by
  induction n generalizing above with
  | zero => rfl
  | succ n ih => rw [burrow, List.length_cons, ih]

/-- All of them are done, and the last section stands below all others. -/
theorem records_burrow {graph : Graph} {above : Nat}
    (h : (graph.view "r").IsBranchAt (List.replicate above "x")) (n : Nat)
    (before : Except Disk.Refusal (List UInt8)) :
    (∀ record ∈ graph.records before (burrow above n), record.result = .ok ()) ∧
      graph.KeepsNodes (burrow above n) ∧
      ((graph.run (burrow above n)).view "r").IsBranchAt (List.replicate (above + n) "x") := by
  induction n generalizing graph above before with
  | zero => exact ⟨fun _ hmem => (nomatch hmem), trivial, h⟩
  | succ n ih =>
    have hlegal : ∀ segment ∈ List.replicate above "x" ++ ["x"], Path.IsLegal segment := by
      intro segment hmem
      rw [← List.replicate_succ'] at hmem
      rw [List.eq_of_mem_replicate hmem]
      decide
    obtain ⟨graph', hok, hview⟩ := Graph.create_of_branch hlegal h .emptySection
    rw [← List.replicate_succ'] at hok hview
    have hexecute : graph.execute (.createSection "r" (List.replicate (above + 1) "x")) =
        ⟨graph', none⟩ := by
      rw [Graph.execute, hok]
      rfl
    have hunder : (graph'.view "r").IsBranchAt (List.replicate (above + 1) "x") := by
      refine ⟨.group, ?_⟩
      rw [hview, Graph.put_same, Node.graft_path]
      rfl
    have hdone : graph.record before (.createSection "r" (List.replicate (above + 1) "x")) =
        ⟨.ok (), .ok (Utf8.encode graph'.snapshot)⟩ := by
      rw [Graph.record_of_done (by rw [hexecute]), hexecute]
    obtain ⟨hresults, hkept, hbottom⟩ := ih hunder (.ok (Utf8.encode graph'.snapshot))
    refine ⟨?_, ⟨fun hloses => hloses, ?_⟩, ?_⟩
    · rw [burrow, Graph.records, hdone, hexecute]
      exact List.forall_mem_cons.2 ⟨rfl, hresults⟩
    · rw [hexecute]
      exact hkept
    · rw [Nat.add_right_comm] at hbottom
      change ((Graph.run (graph.execute _).graph (burrow (above + 1) n)).view "r").IsBranchAt _
      rw [hexecute]
      exact hbottom

/-- Commands that make a root and put sections below it, each into the one before it. -/
def burrowing (n : Nat) : List Command :=
  .createRoot "r" :: burrow 0 n

/-- Burrowing is done command by command, loses no node, and goes down as far as it is asked to. -/
theorem records_burrowing (n : Nat) (before : Except Disk.Refusal (List UInt8)) :
    (∀ record ∈ Graph.empty.records before (burrowing n), record.result = .ok ()) ∧
      Graph.empty.KeepsNodes (burrowing n) ∧
      ((Graph.empty.run (burrowing n)).view "r").IsBranchAt (List.replicate n "x") := by
  have hexecute : Graph.empty.execute (.createRoot "r") = ⟨[("r", .emptyUser)], none⟩ := rfl
  have htop : (Graph.view [("r", .emptyUser)] "r").IsBranchAt (List.replicate 0 "x") :=
    ⟨.user, rfl⟩
  obtain ⟨hresults, hkept, hbottom⟩ :=
    records_burrow htop n (Graph.empty.record before (.createRoot "r")).snapshot
  rw [Nat.zero_add] at hbottom
  refine ⟨List.forall_mem_cons.2 ⟨?_, hresults⟩, ⟨fun hloses => hloses, hkept⟩, hbottom⟩
  rw [Graph.record_of_done (by rw [hexecute])]

/-- All of these commands are plain. -/
theorem isPlain_burrowing (n : Nat) : ∀ command ∈ burrowing n, command.IsPlain := by
  have hburrow : ∀ above n, ∀ command ∈ burrow above n, command.IsPlain := by
    intro above n
    induction n generalizing above with
    | zero => exact fun _ hmem => nomatch hmem
    | succ n ih =>
      refine List.forall_mem_cons.2 ⟨?_, ih (above + 1)⟩
      intro segment hmem
      rw [List.eq_of_mem_replicate hmem]
      decide
  exact List.forall_mem_cons.2 ⟨trivial, hburrow 0 n⟩

/-- The graph is just as deep as there are sections. -/
theorem isNested_burrowing_iff {n levels : Nat} :
    (Graph.empty.run (burrowing n)).IsNested levels ↔ n ≤ levels := by
  constructor
  · intro hnested
    obtain ⟨-, -, hbottom⟩ := records_burrowing n (.ok [])
    have hnamed := Graph.isWellNamed_empty.run (burrowing n)
    have hwithin := (Graph.isNested_iff hnamed).1 hnested "r" _ hbottom.isSome
    rwa [List.length_replicate] at hwithin
  · intro hle entry hmem
    have hsize := Graph.empty.size_run (burrowing n)
    have hcount : (burrowing n).countP (·.creates) ≤ n + 1 := by
      refine Nat.le_trans List.countP_le_length (Nat.le_of_eq ?_)
      rw [burrowing, List.length_cons, length_burrow]
    have hnone : Graph.empty.size = 0 := rfl
    have := Graph.isNested_size _ entry hmem
    omega

/-- **What is written may be too deep.**  All commands of the run are done, each leaves its
snapshot, and a load after the session comes to what is read back of the graph. -/
theorem load_burrowing {disk : Disk} {vault : Vault} (hfree : vault.isLocked = false)
    (hblank : vault.IsBlank disk) (capacity : Int) (n : Nat) :
    ∃ opened first, Session.start disk vault capacity = (opened, .ok first) ∧
      let run := together opened first (burrowing n)
      let closed := (run.2.1.finish run.1).1
      (∀ record ∈ run.2.2, record.result = .ok ()) ∧
        (vault.load closed).result = (Graph.empty.run (burrowing n)).readBack := by
  obtain ⟨opened, place, hstart, hopened⟩ := hblank.start hfree capacity
  generalize hfirst : (⟨vault.opened, .empty, .withCapacity capacity⟩ : Session) = first at hstart
  have hvault : first.vault = vault.opened := by rw [← hfirst]
  have hempty : first.graph = .empty := by rw [← hfirst]
  obtain ⟨hresults, hkept, hbottom⟩ :=
    records_burrowing n (.error ⟨.notFound, vault.stateFile⟩)
  obtain ⟨hrecords, hlast, snapshot, hdone, htold⟩ := together_recorded hopened hvault (burrowing n)
  rw [hempty] at hrecords htold
  obtain ⟨closed, hunlock, hclosed, hgone⟩ := hdone.unlock
  obtain ⟨loaded, hload, hloaded⟩ := hclosed.load hclosed.settled.reaches hgone hfree
  have hfile : snapshot = .ok (Utf8.encode (Graph.empty.run (burrowing n)).snapshot) := by
    refine (htold (.inr ⟨rfl, _, rfl⟩) hkept).resolve_right ?_
    rintro ⟨hnone, -⟩
    obtain ⟨kind, hkind⟩ := hbottom
    rw [hnone] at hkind
    cases hkind
  have hnamed := Graph.isWellNamed_empty.run (burrowing n)
  refine ⟨opened, first, hstart, ?_, ?_⟩
  · rw [hrecords]
    exact hresults
  · simp only [Session.finish, hlast, hunlock, hload]
    rw [Vault.readGraph_eq_ofSnapshot hnamed (hloaded.read.trans hfile),
      Graph.ofSnapshot_snapshot_eq hnamed]

/-- Six hundred sections, each in the one before it, are all created and stored, and cannot be
loaded again. -/
theorem burrowing_not_loaded :
    let vault : Vault := ⟨⟨.root, []⟩, 60, none⟩
    ∃ opened first, Session.start .empty vault 8 = (opened, .ok first) ∧
      let run := together opened first (burrowing 600)
      let closed := (run.2.1.finish run.1).1
      (∀ record ∈ run.2.2, record.result = .ok ()) ∧
        (vault.load closed).result = .error (.fault .graphTooDeep) ∧
        FailsToParse (vault.load closed).result := by
  intro vault
  have hblank : vault.IsBlank .empty := Vault.isBlank_root rfl
  obtain ⟨opened, first, hstart, hdone, hload⟩ := load_burrowing rfl hblank 8 600
  have hdeep : ¬ (Graph.empty.run (burrowing 600)).IsNested (Node.nodeDepth - 1) := by
    rw [isNested_burrowing_iff]
    decide
  have htext : (Graph.empty.run (burrowing 600)).IsNested (Json.textDepth - 2) := by
    rw [isNested_burrowing_iff]
    decide
  rw [Graph.readBack, if_neg hdeep, if_pos htext] at hload
  exact ⟨opened, first, hstart, hdone, hload, _, hload, rfl⟩

end Session

end TaskTree
