import TaskTree.Store
import TaskTree.Proofs.Session
import TaskTree.Proofs.Tables.Runs

/-!
# Snapshots and tables agree

A graph and tables mirror each other if the same is seen of both.  A plain
command keeps them so, since each of them does to what is seen what the other
does (`Mirrors.execute`); the only exception is a move that loses its node in
the graph and is refused by the tables.  So a store that keeps a snapshot and
one that keeps tables stay alike over plain commands that lose no node
(`Store.alike_run`).
-/

namespace TaskTree

namespace Graph

/-- No command of a run loses a node. -/
def KeepsNodes (graph : Graph) : List Command → Prop
  | [] => True
  | command :: rest =>
    ¬ graph.LosesNode command ∧ KeepsNodes (graph.execute command).graph rest

instance decidableKeepsNodes : (graph : Graph) → (commands : List Command) →
    Decidable (graph.KeepsNodes commands)
  | _, [] => .isTrue trivial
  | graph, command :: rest =>
    have : Decidable (KeepsNodes (graph.execute command).graph rest) :=
      decidableKeepsNodes (graph.execute command).graph rest
    inferInstanceAs (Decidable (_ ∧ _))

end Graph

/-- The same is seen of a graph and of sound tables. -/
structure Mirrors (graph : Graph) (tables : Tables) : Prop where
  named : graph.IsWellNamed
  sound : tables.IsSound
  view : graph.view = tables.view

namespace Mirrors

variable {graph : Graph} {tables : Tables}

/-- An empty graph and empty tables mirror each other. -/
theorem empty : Mirrors .empty .empty := by
  refine ⟨Graph.isWellNamed_empty, Tables.isSound_empty, ?_⟩
  funext root path
  rw [Tables.isSound_empty.view_of_not_mem List.not_mem_nil]
  rfl

/-- A plain command that loses no node keeps them alike. -/
theorem execute (h : Mirrors graph tables) {command : Command} (hplain : command.IsPlain)
    (hkept : ¬ graph.LosesNode command) :
    Mirrors (graph.execute command).graph (tables.settled (tables.execute command)) := by
  obtain ⟨hsound, hview⟩ := h.sound.execute hplain
  refine ⟨h.named.execute command, hsound, ?_⟩
  rw [Graph.view_execute hkept, hview, h.view]

/-- A move is done in both or in neither. -/
theorem move_iff (h : Mirrors graph tables) {root : String} {src dest : Path} (hsrc : src.Plain)
    (hdest : dest.Plain) : (graph.move root src dest).fault? = none ↔
      ∃ tables', tables.move root src dest = .ok tables' := by
  rw [Graph.move_succeeds_iff, h.view]
  exact (h.sound.move hsrc hdest).succeeds_iff.symm

/-- Both have the same nodes. -/
theorem get (h : Mirrors graph tables) (root : String) (path : Path) :
    ∃ node?, tables.get root path = .ok node? ∧
      Option.Rel Node.Alike (graph.get? root path.clean) node? := by
  obtain ⟨node?, hok, hseen⟩ := h.sound.get root path
  refine ⟨node?, hok, ?_⟩
  rw [← h.view] at hseen
  cases hget : graph.get? root path.clean with
  | none =>
    have hnone := hseen []
    rw [List.append_nil, Graph.view_eq_none_iff.2 hget] at hnone
    cases node? with
    | none => exact .none
    | some node => simp at hnone
  | some node =>
    cases node? with
    | none =>
      have hsome := hseen []
      rw [List.append_nil, Graph.face_of_get? hget] at hsome
      cases hsome
    | some node' =>
      refine .some fun q => ?_
      rw [← Graph.view_of_get? hget q, ← hseen q, Option.bind_some]

/-- Both know the same roots. -/
theorem mem_roots_iff (h : Mirrors graph tables) {root : String} :
    root ∈ Named.names graph ↔ root ∈ tables.roots := by
  constructor
  · intro hmem
    apply Decidable.byContradiction
    intro hnot
    have hnone : graph.view root [] = none := by
      rw [h.view]
      exact h.sound.view_of_not_mem hnot []
    exact Named.find?_eq_none_iff.1 (Graph.view_nil_eq_none_iff.1 hnone) hmem
  · intro hmem
    apply Decidable.byContradiction
    intro hnot
    have hnone := Graph.view_nil_eq_none_iff.2 (Named.find?_eq_none_iff.2 hnot)
    rw [h.view, h.sound.view_root.2 hmem] at hnone
    cases hnone

/-- Both tell the same roots. -/
theorem roots? (h : Mirrors graph tables) : graph.roots? = tables.roots? := by
  have hperm : (Named.names graph).Perm tables.roots :=
    (List.perm_ext_iff_of_nodup h.named.distinct h.sound.rootsDistinct).2 fun _ => h.mem_roots_iff
  have hsorted : ∀ names : List String,
      (names.mergeSort fun a b => decide (a ≤ b)).Pairwise (· ≤ ·) := by
    intro names
    have hle := @List.pairwise_mergeSort String (fun a b => decide (a ≤ b))
      (fun a b c hab hbc => by
        simp only [decide_eq_true_eq] at *
        exact String.le_trans hab hbc)
      (fun a b => by
        simp only [Bool.or_eq_true, decide_eq_true_eq]
        exact String.le_total a b) names
    exact hle.imp fun hab => by simpa using hab
  have hsame : (Named.names graph).mergeSort (fun a b => decide (a ≤ b)) = tables.rootNames := by
    refine List.Perm.eq_of_pairwise (fun _ _ _ _ => String.le_antisymm) (hsorted _) (hsorted _) ?_
    exact (List.mergeSort_perm ..).trans (hperm.trans (List.mergeSort_perm ..).symm)
  cases hnames : tables.rootNames with
  | nil => simp only [Graph.roots?, Tables.roots?, hsame, hnames]
  | cons name rest => simp only [Graph.roots?, Tables.roots?, hsame, hnames]

end Mirrors

namespace Session

/-- A command is done if its snapshot can be written and the graph does not refuse it. -/
theorem result_execute {disk : Disk} {session : Session} {command : Command}
    (hstored : (session.vault.store disk (session.graph.execute command).graph).2 = .ok ()) :
    (session.execute disk command).result = .ok () ↔
      (session.graph.execute command).fault? = none := by
  unfold execute
  simp only
  split
  · next fault hfault => simp [hfault]
  · next hfault =>
    split
    · next hrefused =>
      rw [hrefused] at hstored
      cases hstored
    · simp [hfault]

end Session

namespace TableStore

/-- Tables that can be written are afterwards as a command leaves them. -/
theorem execute_writable {store : TableStore} (hwritable : store.isReadOnly = false)
    (command : Command) :
    (store.execute command).1.tables = store.tables.settled (store.tables.execute command) ∧
      ((store.execute command).2 = .ok () ↔
        ∃ tables, store.tables.execute command = .ok tables) ∧
      (store.execute command).1.isReadOnly = false := by
  cases hresult : store.tables.execute command with
  | error failure =>
    obtain ⟨failure', hrefused⟩ := tablesAfter_of_refused hresult
    simp [execute, hrefused, hwritable]
  | ok tables =>
    have hdone : store.tablesAfter command = .ok tables := by
      simp [tablesAfter, hresult, hwritable]
    have hhome : store.home?.any (·.isReadOnly) = false := hwritable
    simp [execute, hdone, isReadOnly, hhome]

end TableStore

namespace Store

/-- A disk and a store after commands, one after another, whether they are done or refused. -/
def run (disk : Disk) (store : Store) : List Command → Disk × Store
  | [] => (disk, store)
  | command :: rest =>
    let after := store.execute disk command
    run after.disk after.store rest

/-- Stores of the two kinds in which the same is seen. -/
structure Alike (session : Session) (tables : TableStore) : Prop where
  mirrors : Mirrors session.graph tables.tables
  writable : tables.isReadOnly = false

/-- Stores stay alike over plain commands that lose no node. -/
theorem alike_run {disk disk' : Disk} {session : Session} {tables : TableStore}
    (h : Alike session tables) {commands : List Command}
    (hplain : ∀ command ∈ commands, command.IsPlain)
    (hkept : session.graph.KeepsNodes commands) :
    ∃ session' tables', (run disk (.file session) commands).2 = .file session' ∧
      run disk' (.tables tables) commands = (disk', .tables tables') ∧
      session'.vault = session.vault ∧ Alike session' tables' := by
  induction commands generalizing disk session tables with
  | nil => exact ⟨session, tables, rfl, rfl, rfl, h⟩
  | cons command rest ih =>
    obtain ⟨htables, -, hwritable⟩ := TableStore.execute_writable h.writable command
    have hgraph := Session.graph_execute disk session command none
    have hmirrors := h.mirrors.execute (hplain command (List.mem_cons_self ..)) hkept.1
    rw [← hgraph, ← htables] at hmirrors
    obtain ⟨session', tables', hfile, hflat, hvault, halike⟩ :=
      @ih (session.execute disk command).disk (session.execute disk command).session
        (tables.execute command).1 ⟨hmirrors, hwritable⟩
        (fun c hc => hplain c (List.mem_cons_of_mem _ hc)) (hgraph ▸ hkept.2)
    refine ⟨session', tables', hfile, hflat, ?_, halike⟩
    rw [hvault, Session.vault_execute]

end Store

end TaskTree
