import TaskTree.Proofs.Store.Agreement
import TaskTree.Proofs.Tables.Refusal

/-!
# The same end in both stores

In two stores that agree, a command that is no move comes to the same end, which is to be done or
to be refused with one kind of fault, unless it goes astray.  Then tables say that something is
not there, and the store with a graph does not (`same_end_iff`).
-/

namespace TaskTree

/-! Ends. -/

/-- A result ends in one way. -/
theorem EndsIn.unique {α : Type} {result : Except Failure α} {a b : Option FaultKind}
    (ha : EndsIn result a) (hb : EndsIn result b) : a = b := by
  cases a with
  | none =>
    obtain ⟨done, rfl⟩ := ha
    cases b with
    | none => rfl
    | some kind =>
      obtain ⟨fault, hfault, -⟩ := hb
      cases hfault
  | some kind =>
    obtain ⟨fault, rfl, rfl⟩ := ha
    cases b with
    | none =>
      obtain ⟨done, hdone⟩ := hb
      cases hdone
    | some kind' =>
      obtain ⟨fault', hfault, rfl⟩ := hb
      cases hfault
      rfl

/-- Both results are there, or both are faults of one kind. -/
def SameEnd {α β : Type} (a : Except Failure α) (b : Except Failure β) : Prop :=
  ∃ refusal?, EndsIn a refusal? ∧ EndsIn b refusal?

/-- Two results end the same exactly when their refusals are the same. -/
theorem sameEnd_iff_eq {α β : Type} {a : Except Failure α} {b : Except Failure β}
    {refusalA? refusalB? : Option FaultKind} (ha : EndsIn a refusalA?) (hb : EndsIn b refusalB?) :
    SameEnd a b ↔ refusalA? = refusalB? := by
  constructor
  · intro hsame
    obtain ⟨refusal?, ha', hb'⟩ := hsame
    exact (ha.unique ha').trans (hb'.unique hb)
  · intro heq
    subst heq
    exact ⟨refusalA?, ha, hb⟩

namespace Session

/-- A session whose snapshot can be written refuses a command for what its graph does. -/
theorem endsIn_execute {disk : Disk} {session : Session} {command : Command}
    (hstored : (session.vault.store disk (session.graph.execute command).graph).2 = .ok ()) :
    EndsIn (session.execute disk command).result
      ((session.graph.execute command).fault?.map Fault.kind) := by
  cases hfault : (session.graph.execute command).fault? with
  | none => exact ⟨(), (result_execute hstored).2 hfault⟩
  | some fault =>
    refine ⟨fault, ?_, rfl⟩
    unfold execute
    simp only [hfault]

end Session

namespace TableStore

/-- Tables that can be written are refused nothing more. -/
theorem tablesAfter_writable {store : TableStore} (hwritable : store.isReadOnly = false)
    (command : Command) : store.tablesAfter command = store.tables.execute command := by
  unfold tablesAfter
  split
  · next hdone => simp [hwritable, hdone]
  · next hexists => simp [hwritable, hexists]
  · next hrefused => rw [hrefused]

/-- Tables that can be written refuse nothing but what the tables themselves refuse. -/
theorem endsIn_execute {store : TableStore} (hwritable : store.isReadOnly = false)
    {command : Command} {refusal? : Option FaultKind}
    (h : EndsIn (store.tables.execute command) refusal?) :
    EndsIn (store.execute command).2 refusal? := by
  unfold execute
  rw [tablesAfter_writable hwritable]
  cases refusal? with
  | none =>
    obtain ⟨tables, hdone⟩ := h
    rw [hdone]
    exact ⟨(), rfl⟩
  | some kind =>
    obtain ⟨fault, hrefused, hkind⟩ := h
    rw [hrefused]
    exact ⟨fault, rfl, hkind⟩

end TableStore

namespace Store

/-- A store is sound for a command: a session is, or tables are that can be written, and the command
is a plain one. -/
def IsSoundFor (disk : Disk) (command : Command) : Store → Prop
  | .file session => session.IsSound disk
  | .tables store => store.tables.IsSound ∧ store.isReadOnly = false ∧ command.IsPlain

/-- A sound store does a command or refuses it with a fault. -/
theorem IsSoundFor.noMishap {disk : Disk} {command : Command} {store : Store}
    (h : store.IsSoundFor disk command) (mishap : Mishap) :
    (store.execute disk command).result ≠ .error (.mishap mishap) := by
  cases store with
  | file session =>
    change (session.execute disk command).result ≠ _
    rcases Session.IsSound.execute_cases h command none with
      ⟨fault, -, hend⟩ | ⟨-, r, hend⟩ | ⟨-, -, disk', -, hend⟩
    · rw [hend]
      exact nofun
    · rw [hend]
      exact nofun
    · rw [hend]
      exact nofun
  | tables store =>
    obtain ⟨hsound, hwritable, hplain⟩ := h
    have hfault := hsound.noMishap hplain mishap
    change (store.execute command).2 ≠ _
    unfold TableStore.execute
    rw [TableStore.tablesAfter_writable hwritable]
    cases hresult : store.tables.execute command with
    | ok tables => exact nofun
    | error failure =>
      intro hmishap
      cases hmishap
      exact hfault hresult

/-- The graph of a store after commands is what they make of its graph. -/
theorem graph_run (disk : Disk) (session : Session) (commands : List Command) :
    ∃ session', (run disk (.file session) commands).2 = .file session' ∧
      session'.graph = session.graph.run commands := by
  induction commands generalizing disk session with
  | nil => exact ⟨session, rfl, rfl⟩
  | cons command rest ih =>
    obtain ⟨session', hrun, hgraph⟩ :=
      ih (session.execute disk command).disk (session.execute disk command).session
    refine ⟨session', hrun, ?_⟩
    rw [hgraph, Session.graph_execute]
    rfl

/-- **The same end, unless a command goes astray.**  After plain commands that lose no node, on an
empty graph and on empty tables, a plain command that is no move comes to the same end in both
stores, exactly if it does not go astray in what is seen.  If it does, the tables refuse it for
something that is not there, and the other store does not. -/
theorem same_end_iff (disk : Disk) (session : Session) (tables : TableStore)
    (hgraph : session.graph = .empty) (htables : tables.tables = .empty)
    (hwritable : tables.isReadOnly = false) (commands : List Command)
    (hplain : ∀ command ∈ commands, command.IsPlain)
    (hkept : Graph.empty.KeepsNodes commands) (command : Command) (hnext : command.IsPlain)
    (hmove : command.kind ≠ .move)
    (hstored : ∀ graph,
      (session.vault.store (run disk (.file session) commands).1 graph).2 = .ok ()) :
    let file := run disk (.file session) commands
    let flat := run disk (.tables tables) commands
    let seen := (Graph.empty.run commands).view
    (SameEnd (file.2.execute file.1 command).result (flat.2.execute flat.1 command).result ↔
      ¬ seen.Astray command) ∧
    (seen.Astray command → EndsIn (flat.2.execute flat.1 command).result (some .notFound) ∧
      ¬ EndsIn (file.2.execute file.1 command).result (some .notFound)) := by
  intro file flat seen
  have hstart : Alike session tables := by
    refine ⟨?_, hwritable⟩
    rw [hgraph, htables]
    exact .empty
  obtain ⟨session', tables', hfile, hflat, hvault, halike⟩ :=
    @alike_run disk disk session tables hstart commands hplain (hgraph ▸ hkept)
  obtain ⟨session'', hfile'', hrun⟩ := graph_run disk session commands
  obtain rfl : session' = session'' := Store.file.inj (hfile.symm.trans hfile'')
  have hseen : session'.graph.view = seen := by rw [hrun, hgraph]
  have hfile' : file.2 = .file session' := hfile
  have hflat' : flat = (disk, .tables tables') := hflat
  rw [hfile', hflat']
  have hfileEnds := @Session.endsIn_execute file.1 session' command (hvault ▸ hstored _)
  rw [session'.graph.kind_execute hmove, hseen] at hfileEnds
  have hflatEnds := TableStore.endsIn_execute halike.writable
    (halike.mirrors.sound.endsIn_execute hnext hmove)
  rw [← halike.mirrors.view, hseen] at hflatEnds
  have hastray : seen.Astray command → seen.refusal? command ≠ some .notFound := by
    rw [← hseen]
    exact session'.graph.refusal_of_astray
  refine ⟨(sameEnd_iff_eq hfileEnds hflatEnds).trans ?_, fun hlost => ⟨?_, ?_⟩⟩
  · unfold Graph.View.refusalInTables?
    by_cases hlost : seen.Astray command
    · rw [if_pos hlost]
      exact iff_of_false (hastray hlost) fun hnot => hnot hlost
    · rw [if_neg hlost]
      exact iff_of_true rfl hlost
  · rw [Graph.View.refusalInTables?, if_pos hlost] at hflatEnds
    exact hflatEnds
  · intro hends
    exact hastray hlost (hfileEnds.unique hends)

/-- An item cannot be put into another one, and both stores say so. -/
theorem same_end_iff_inside :
    let commands : List Command := [.createRoot "alice", .createItem "alice" ["x"] "x" "" .notDone]
    let file := run .empty (.file ⟨⟨⟨.root, []⟩, 60, none⟩, .empty, .withCapacity 8⟩) commands
    let flat := run .empty (.tables ⟨.empty, none, none⟩) commands
    let next : Command := .createItem "alice" ["x", "y"] "y" "" .notDone
    SameEnd (file.2.execute file.1 next).result (flat.2.execute flat.1 next).result :=
  (same_end_iff .empty _ _ rfl rfl rfl _ (by decide) (by decide) _ (by decide) (by decide)
    fun _ => rfl).1.2 (by decide)

/-- An item below a root that is not there is put in its other state without a word by the store
with a graph, and not by the tables. -/
theorem toggle_goes_astray :
    let commands : List Command := [.createRoot "alice"]
    let file := run .empty (.file ⟨⟨⟨.root, []⟩, 60, none⟩, .empty, .withCapacity 8⟩) commands
    let flat := run .empty (.tables ⟨.empty, none, none⟩) commands
    let next : Command := .toggleItem "ghost" ["x"]
    next.IsPlain ∧ (file.2.execute file.1 next).result = .ok () ∧
      EndsIn (flat.2.execute flat.1 next).result (some .notFound) :=
  ⟨by decide, rfl, .rootMissing "ghost", rfl, rfl⟩

end Store

end TaskTree
