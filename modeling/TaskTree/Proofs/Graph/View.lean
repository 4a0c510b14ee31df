import TaskTree.Graph.Basic
import TaskTree.Proofs.Node.View

/-!
# What is seen of a graph

A graph is seen through its roots: below each root, through the paths from it.
Two graphs of which the same is seen differ in the order of their names only,
so `Alike` is equality of nested mappings (`alike_iff` looks one level down).

The operations on graphs are seen as those on the node of one root, and `put`
says that nothing is seen to happen below other roots.
-/

namespace TaskTree.Graph

/-- What is seen at the end of each path below each root. -/
abbrev View := String → Node.View

/-- What is seen of a graph. -/
def view (graph : Graph) : View :=
  fun root path => (graph.get? root path).map Node.face

/-- The view of a root that is there is that of its node. -/
theorem view_of_find? {graph : Graph} {root : String} {top : Node}
    (h : Named.find? root graph = some top) : graph.view root = top.view := by
  funext path
  rw [view, get?, h, Option.bind_some]
  rfl

/-- Nothing is seen below a root that is not there. -/
theorem view_of_find?_none {graph : Graph} {root : String} (h : Named.find? root graph = none) :
    graph.view root = fun _ => none := by
  funext path
  rw [view, get?, h, Option.bind_none, Option.map_none]

/-- A root is there if anything is seen of it. -/
theorem view_nil_eq_none_iff {graph : Graph} {root : String} :
    graph.view root [] = none ↔ Named.find? root graph = none := by
  cases h : Named.find? root graph with
  | none => simp [view_of_find?_none h]
  | some top => simp [view_of_find? h]

/-- Nothing is seen exactly where no node stands. -/
theorem view_eq_none_iff {graph : Graph} {root : String} {path : Path} :
    graph.view root path = none ↔ graph.get? root path = none := by
  simp [view]

/-- Nothing is seen below an unseen path. -/
theorem view_none_append {graph : Graph} {root : String} {p : Path}
    (h : graph.view root p = none) (q : Path) : graph.view root (p ++ q) = none := by
  cases hfound : Named.find? root graph with
  | none => rw [view_of_find?_none hfound]
  | some top =>
    rw [view_of_find? hfound] at h ⊢
    exact Node.view_none_append h q

/-! Graphs that look alike. -/

/-- Two graphs are equal as nested mappings: the same is seen of them everywhere. -/
def Alike (a b : Graph) : Prop :=
  ∀ root path, a.view root path = b.view root path

theorem Alike.symm {a b : Graph} (h : Alike a b) : Alike b a :=
  fun root path => (h root path).symm

theorem Alike.trans {a b c : Graph} (h : Alike a b) (h' : Alike b c) : Alike a c :=
  fun root path => (h root path).trans (h' root path)

/-- Graphs are alike if they have the same roots, and roots of one name are alike. -/
theorem alike_iff {a b : Graph} :
    Alike a b ↔ ∀ root, Option.Rel Node.Alike (Named.find? root a) (Named.find? root b) := by
  constructor
  · intro h root
    cases ha : Named.find? root a with
    | none =>
      have hb := view_nil_eq_none_iff.1 ((h root []).symm.trans (view_nil_eq_none_iff.2 ha))
      rw [hb]
      exact .none
    | some top =>
      cases hb : Named.find? root b with
      | none =>
        have := view_nil_eq_none_iff.1 ((h root []).trans (view_nil_eq_none_iff.2 hb))
        rw [ha] at this
        cases this
      | some top' =>
        refine .some fun path => ?_
        rw [← view_of_find? ha, ← view_of_find? hb, h]
  · intro h root path
    have hroot := h root
    cases ha : Named.find? root a with
    | none =>
      cases hb : Named.find? root b with
      | none => rw [view_of_find?_none ha, view_of_find?_none hb]
      | some top' => rw [ha, hb] at hroot; cases hroot
    | some top =>
      cases hb : Named.find? root b with
      | none => rw [ha, hb] at hroot; cases hroot
      | some top' =>
        rw [ha, hb] at hroot
        cases hroot with
        | some htop => rw [view_of_find? ha, view_of_find? hb, htop path]

/-! Replacing what is seen of one root. -/

/-- A view with something else below one root. -/
def View.put (seen : View) (root : String) (top : Node.View) : View :=
  fun r => if root = r then top else seen r

@[simp] theorem put_self (seen : View) (root : String) : seen.put root (seen root) = seen := by
  funext r
  by_cases h : root = r
  · subst h
    simp [View.put]
  · simp [View.put, h]

@[simp] theorem put_same (seen : View) (root : String) (top : Node.View) :
    seen.put root top root = top := if_pos rfl

@[simp] theorem put_put (seen : View) (root : String) (top top' : Node.View) :
    (seen.put root top).put root top' = seen.put root top' := by
  funext r
  by_cases h : root = r <;> simp [View.put, h]

/-- The other roots are left as they are. -/
theorem put_of_ne {seen : View} {root r : String} {top : Node.View} (h : root ≠ r) :
    seen.put root top r = seen r := if_neg h

/-- Another node in the place of a root is seen there, and nowhere else. -/
theorem view_insert (graph : Graph) (root : String) (top : Node) :
    view (Named.insert root top graph) = graph.view.put root top.view := by
  funext r path
  by_cases h : root = r
  · subst h
    rw [put_same, view_of_find? (Named.find?_insert_self ..)]
  · rw [put_of_ne h, view, view, get?, get?, Named.find?_insert, if_neg h]

end TaskTree.Graph
