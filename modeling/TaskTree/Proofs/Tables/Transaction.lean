import TaskTree.Tables.Transaction
import TaskTree.Proofs.Tables.Writes

/-!
# Refused work leaves nothing behind

A command looks at tables before it writes to them, and what it writes is written in one
transaction (`Does`, `Ends`).  So wherever it is refused, the tables are as they were, also when
some rows had been changed by then; and what is done step by step is what `Tables.execute` tells
at once (`does_execute`).  Stores add nothing to that but word to the listeners, which they get
when all is done (`failed_changes_nothing`).
-/

namespace TaskTree

namespace Tables

namespace Work

variable {tables : Tables} {root : String} {work : Work Unit} {result : Except Failure Tables}

/-- Work comes to what is told at once, with the tables as they were if it is refused. -/
def Does (work : Work Unit) (tables : Tables) (result : Except Failure Tables) : Prop :=
  work.run tables = (result.map fun _ => (), tables.settled result)

/-- Work comes to what is told at once, whatever it leaves if it is refused. -/
def Ends (work : Work Unit) (tables : Tables) (result : Except Failure Tables) : Prop :=
  (work.run tables).1 = result.map (fun _ => ()) ∧
    ∀ after, result = .ok after → (work.run tables).2 = after

theorem does_nothing (tables : Tables) : Does (pure ()) tables (.ok tables) := rfl

theorem does_throw (tables : Tables) (failure : Failure) :
    Does (throw failure) tables (.error failure) := rfl

/-- What comes after work starts from the tables that it leaves, if it is not refused. -/
theorem run_bind {α : Type} (first : Work α) (next : α → Work Unit) (tables : Tables) :
    (first >>= next).run tables =
      ExceptT.bindCont next (first.run tables).1 (first.run tables).2 := rfl

/-- A look changes nothing, so what comes after it starts from the same tables. -/
theorem does_look {α : Type} {question : Tables → Except Failure α} {work : α → Work Unit}
    {f : α → Except Failure Tables}
    (h : ∀ a, question tables = .ok a → Does (work a) tables (f a)) :
    Does (look question >>= work) tables (question tables >>= f) := by
  have hrun : (look question).run tables = (question tables, tables) := rfl
  rw [Does, run_bind, hrun]
  cases hanswer : question tables with
  | error failure => rfl
  | ok a => exact h a hanswer

/-- A change that is made is written. -/
theorem run_write_ok {change : Tables → Except Failure Tables} {after : Tables}
    (h : change tables = .ok after) : (write change).run tables = (.ok (), after) := by
  simp only [write, ExceptT.run, ExceptT.mk, h]

/-- A change that is refused is not written. -/
theorem run_write_error {change : Tables → Except Failure Tables} {failure : Failure}
    (h : change tables = .error failure) :
    (write change).run tables = (.error failure, tables) := by
  simp only [write, ExceptT.run, ExceptT.mk, h]

/-- A statement comes to what it writes. -/
theorem ends_write (change : Tables → Except Failure Tables) (tables : Tables) :
    Ends (write change) tables (change tables) := by
  unfold Ends
  cases hchange : change tables with
  | ok after =>
    rw [run_write_ok hchange]
    exact ⟨rfl, fun _ hafter => Except.ok.inj hafter⟩
  | error failure =>
    rw [run_write_error hchange]
    exact ⟨rfl, fun _ hafter => by cases hafter⟩

/-- More statements start from what those before have written. -/
theorem Ends.after_write {change g : Tables → Except Failure Tables}
    (h : ∀ after, change tables = .ok after → Ends work after (g after)) :
    Ends (write change >>= fun _ => work) tables (change tables >>= g) := by
  rw [Ends, run_bind]
  cases hchange : change tables with
  | ok after =>
    rw [run_write_ok hchange]
    exact h after hchange
  | error failure =>
    rw [run_write_error hchange]
    exact ⟨rfl, fun _ hafter => by cases hafter⟩

/-- Work after a change ends as it does on the changed tables. -/
theorem Ends.after_modify {f : Tables → Tables} (h : Ends work (f tables) result) :
    Ends (modify f >>= fun _ => work) tables result := h

/-- A transaction leaves what its work has written, or nothing of it. -/
theorem Ends.whole (h : Ends work tables result) : Does (whole work) tables result := by
  obtain ⟨hend, hleft⟩ := h
  unfold Does
  cases result with
  | ok after =>
    have hrun : work.run tables = (.ok (), after) := Prod.ext hend (hleft after rfl)
    rw [ExceptT.run] at hrun
    simp only [Work.whole, ExceptT.run, ExceptT.mk, hrun]
    rfl
  | error failure =>
    have hrun : work.run tables = (.error failure, (work.run tables).2) := Prod.ext hend rfl
    rw [ExceptT.run] at hrun
    simp only [Work.whole, ExceptT.run, ExceptT.mk]
    rw [hrun]
    rfl

/-- Rows that move are written one after another, up to the first that meets a taken path. -/
theorem ends_moveEach (src dest : String) (rows : List Row) (tables : Tables) :
    Ends (moveEach src dest rows) tables (liftBroken (moveRows src dest rows tables)) := by
  induction rows generalizing tables with
  | nil => exact ⟨rfl, fun _ hafter => Except.ok.inj hafter⟩
  | cons row rest ih =>
    have hrows : liftBroken (moveRows src dest (row :: rest) tables) =
        liftBroken (tables.replace { row with path := movedPath src dest row.path }) >>=
          fun middle => liftBroken (moveRows src dest rest middle) := by
      rw [moveRows]
      cases tables.replace { row with path := movedPath src dest row.path } <;> rfl
    rw [hrows]
    exact .after_write fun middle _ => ih middle

/-! Commands. -/

/-- Step by step, creating a root comes to what is told at once. -/
theorem does_createRoot (tables : Tables) (root : String) :
    Does (createRoot root) tables (tables.createRoot root) := by
  unfold createRoot Tables.createRoot
  split
  · exact does_throw tables _
  · exact (ends_write _ tables).whole

/-- Step by step, creating a node comes to what is told at once. -/
theorem does_create (tables : Tables) (root : String) (path : Path) (kind : RowKind)
    (content : Option String) :
    Does (create root path kind content) tables (tables.create root path kind content) := by
  unfold create Tables.create
  split
  · exact does_throw tables _
  · refine does_look fun _ _ => does_look fun _ _ => does_look fun place _ => ?_
    cases place with
    | missing => exact does_throw tables _
    | item => exact does_throw tables _
    | branch => exact (Ends.after_modify (ends_write _ _)).whole

/-- Step by step, renaming ends as is told at once, though it can break off between its two writes.
-/
theorem ends_rename (tables : Tables) (row : Row) (path : String) (item : Item) :
    Ends (rename row path item) tables (liftBroken (tables.rename row path item)) := by
  unfold rename Tables.rename
  split
  · exact ends_write _ tables
  · exact .after_modify (ends_write _ _)

/-- Step by step, updating an item comes to what is told at once. -/
theorem does_updateItem (tables : Tables) (root : String) (path : Path) (item : Item) :
    Does (updateItem root path item) tables (tables.updateItem root path item) := by
  unfold updateItem Tables.updateItem
  split
  · exact does_nothing tables
  · refine does_look fun _ _ => does_look fun place _ => ?_
    cases place with
    | missing => exact does_nothing tables
    | item => exact does_throw tables _
    | branch =>
      refine does_look fun read? _ => ?_
      cases read? with
      | none => exact does_nothing tables
      | some read =>
        obtain ⟨row, content⟩ := read
        simp only
        split
        · exact does_look fun _ _ => (ends_rename ..).whole
        · exact does_throw tables _

/-- Step by step, toggling an item comes to what is told at once. -/
theorem does_toggleItem (tables : Tables) (root : String) (path : Path) :
    Does (toggleItem root path) tables (tables.toggleItem root path) := by
  unfold toggleItem Tables.toggleItem
  refine does_look fun _ _ => ?_
  split
  · exact does_throw tables _
  · refine does_look fun read? _ => ?_
    cases read? with
    | none => exact does_nothing tables
    | some read =>
      simp only
      split
      · exact does_look fun fields _ => (ends_write _ tables).whole
      · exact does_throw tables _

/-- Step by step, putting a subtree under another node comes to what is told at once. -/
theorem does_moveUnder (tables : Tables) (root : String) (src dest : Path) (name : String) :
    Does (moveUnder root src dest name) tables (tables.moveUnder root src dest name) := by
  unfold moveUnder Tables.moveUnder
  simp only
  split
  · exact does_throw tables _
  · split
    · exact does_nothing tables
    · refine does_look fun there? _ => ?_
      cases there? with
      | some there => exact does_throw tables _
      | none =>
        have hmoves : Ends (look (fun tables => .ok (tables.subtree root (Path.format src))) >>=
            moveEach (Path.format src) (Path.format (dest ++ [name]))) tables
            (liftBroken (tables.moveSubtree root (Path.format src)
              (Path.format (dest ++ [name])))) := ends_moveEach ..
        exact hmoves.whole

/-- Step by step, moving comes to what is told at once. -/
theorem does_move (tables : Tables) (root : String) (src dest : Path) :
    Does (move root src dest) tables (tables.move root src dest) := by
  unfold move Tables.move
  refine does_look fun _ _ => ?_
  cases src.getLast? with
  | none => exact does_throw tables _
  | some name =>
    refine does_look fun read? _ => ?_
    cases read? with
    | none => exact does_throw tables _
    | some read =>
      refine does_look fun place _ => ?_
      cases place with
      | missing => exact does_throw tables _
      | item => exact does_throw tables _
      | branch => exact does_moveUnder ..

/-- To archive a subtree without rows changes nothing. -/
theorem archiveSubtree_of_empty {text : String} (h : tables.subtreeSize root text = 0) :
    tables.archiveSubtree root text = tables := by
  have houtside := List.countP_eq_zero.1 h
  have hrows : tables.rows.map (fun row =>
      if isWithin root text row then { row with active := false } else row) = tables.rows :=
    (List.map_congr_left fun row hrow => if_neg (houtside row hrow)).trans (List.map_id _)
  unfold archiveSubtree
  rw [hrows]

/-- That there was nothing to archive is only found out when the transaction is over, and then
there is nothing to take back. -/
theorem does_archive (tables : Tables) (root : String) (path : Path) :
    Does (archive root path) tables (tables.archive root path) := by
  unfold archive Tables.archive
  refine does_look fun _ _ => ?_
  by_cases hpath : path = []
  · rw [if_pos hpath, if_pos (.inl hpath)]
    rfl
  · have hrun : (whole (archiveRows root (Path.format path))).run tables =
        (.ok (tables.subtreeSize root (Path.format path)),
          tables.archiveSubtree root (Path.format path)) := rfl
    rw [if_neg hpath, Does, run_bind, hrun]
    by_cases hcount : tables.subtreeSize root (Path.format path) = 0
    · rw [if_pos (.inr hcount), archiveSubtree_of_empty hcount, hcount]
      rfl
    · rw [if_neg (by simp [hpath, hcount])]
      change (if tables.subtreeSize root (Path.format path) = 0 then _ else _ : Work Unit).run _ = _
      rw [if_neg hcount]
      rfl

/-- **Step by step.**  What a command comes to step by step is what it comes to at once, and
refused work leaves the tables as they were. -/
theorem does_execute (tables : Tables) (command : Command) :
    Does (execute command) tables (tables.execute command) := by
  cases command with
  | createRoot root => exact does_createRoot ..
  | createSection root path => exact does_create ..
  | createItem root path title description state => exact does_create ..
  | updateItem root path title description state => exact does_updateItem ..
  | toggleItem root path => exact does_toggleItem ..
  | move root src dest => exact does_move ..
  | archive root path => exact does_archive ..

end Work

end Tables

namespace TableStore

/-- What is done step by step in a store whose tables can be written is what is done at once. -/
theorem perform_eq_execute {store : TableStore} (hwritable : store.isReadOnly = false)
    (command : Command) : store.perform command = store.execute command := by
  have hdoes := Tables.Work.does_execute store.tables command
  unfold perform
  rw [hdoes]
  unfold execute
  cases hresult : store.tables.execute command with
  | ok after =>
    have hafter : store.tablesAfter command = .ok after := by
      simp [tablesAfter, hresult, hwritable]
    rw [hafter]
    rfl
  | error failure =>
    have hafter : store.tablesAfter command = .error failure := by
      unfold tablesAfter
      rw [hresult]
      split
      · next hok => cases hok
      · next hexists =>
        rw [hwritable]
        exact hexists.symm
      · next hrefused => exact hrefused.symm
    rw [hafter]
    rfl

/-- **A command that fails changes nothing.**  Whatever rows tables have and whatever a command is
told: if it is refused, at a look or in the middle of a statement, the store is as it was, with
its tables and its listeners.  So it is step by step, and so it is at once. -/
theorem failed_changes_nothing (store : TableStore) (command : Command) (failure : Failure) :
    ((store.perform command).2 = .error failure → (store.perform command).1 = store) ∧
      ((store.execute command).2 = .error failure → (store.execute command).1 = store) ∧
      (store.isReadOnly = false → store.perform command = store.execute command) := by
  refine ⟨fun hfailed => ?_, execute_eq_error, fun hwritable => perform_eq_execute hwritable command⟩
  have hdoes := Tables.Work.does_execute store.tables command
  unfold perform at hfailed ⊢
  rw [hdoes] at hfailed ⊢
  cases hresult : store.tables.execute command with
  | ok after =>
    rw [hresult] at hfailed
    cases hfailed
  | error failure' => rfl

/-- A store with a section in the way of a row that moves, and a listener. -/
def withObstacle : TableStore :=
  ⟨⟨["r"],
    [⟨0, "r", "a", .group, none, true⟩, ⟨1, "r", "a.x", .group, none, true⟩,
     ⟨2, "r", "c", .group, none, true⟩, ⟨3, "r", "c.a.x", .group, none, true⟩], 4⟩,
    some ((Events.withCapacity 1).subscribe).1, none⟩

/-- A move is broken off when one row has moved and the other has not, and both are where they
were. -/
theorem failed_changes_nothing_halfway :
    let rows := withObstacle.tables.subtree "r" "a"
    let moved := ((Tables.Work.moveEach "a" "c.a" rows).run withObstacle.tables).2
    moved.rows.map Row.path = ["c.a", "a.x", "c", "c.a.x"] ∧
      (withObstacle.perform (.move "r" ["a"] ["c"])).2 = .error (.mishap (.broken .uniquePath)) ∧
      (withObstacle.perform (.move "r" ["a"] ["c"])).1 = withObstacle ∧
      (withObstacle.execute (.move "r" ["a"] ["c"])).1 = withObstacle := by
  have h := failed_changes_nothing withObstacle (.move "r" ["a"] ["c"])
    (.mishap (.broken .uniquePath))
  have hperform : (withObstacle.perform (.move "r" ["a"] ["c"])).2 =
      .error (.mishap (.broken .uniquePath)) := by rfl
  have hexecute : (withObstacle.execute (.move "r" ["a"] ["c"])).2 =
      .error (.mishap (.broken .uniquePath)) := by rfl
  exact ⟨by decide +kernel, hperform, h.1 hperform, h.2.1 hexecute⟩

end TableStore

end TaskTree
