import Mathlib.Data.Set.Function
import TaskTree.Proofs.Graph.Creation

/-!
# Moves

A move takes its node away and then looks for a place under the destination, in the graph that has
lost the node already.  So a destination inside the node is never found, and the place where the
node stood is always free.  What becomes of the move is told from that graph alone.  A move that is
done replaces twice, the node by nothing and then nothing by the node, and the nodes before it and
after it correspond one to one (`corresponds_relocate`).
-/

namespace TaskTree

namespace Path

/-- Where a node stands that stood at a path, after all that was at and below `src` has come to
stand at and below `place`. -/
def relocate (src place p : Path) : Path :=
  if src <+: p then place ++ p.drop src.length else p

@[simp] theorem relocate_append (src place q : Path) :
    relocate src place (src ++ q) = place ++ q := by
  simp [relocate]

/-- Any other path stays. -/
theorem relocate_elsewhere {src p : Path} (h : ¬ src <+: p) (place : Path) :
    relocate src place p = p := if_neg h

end Path

namespace Graph

variable {graph rest after : Graph} {root name : String} {src dest place : Path} {node : Node}

/-! What is found at the destination. -/

/-- Nothing is attached where no node is. -/
theorem attach_nowhere (h : graph.get? root dest = none) (name : String) (node : Node) :
    graph.attach root dest name node = .error .destinationMissing := by
  simp only [attach, h]

/-- Nothing is attached to an item. -/
theorem attach_to_item {item : Item} (h : graph.get? root dest = some (.leaf item)) (name : String)
    (node : Node) : graph.attach root dest name node = .error .destinationIsItem := by
  simp only [attach, h]

/-- Nothing is attached under a name that is taken. -/
theorem attach_taken (hunder : (graph.view root).IsBranchAt dest)
    (htaken : graph.get? root (dest ++ [name]) ≠ none) (node : Node) :
    graph.attach root dest name node = .error (.nameTaken name) := by
  obtain ⟨kind, children, hget⟩ := get?_of_branch hunder
  have hname : Named.has name children = true := by
    rw [Named.has, ← get?_child hget, Option.isSome_iff_ne_none]
    exact htaken
  simp only [attach, hget, hname, if_true]

/-- A node is put under a destination that holds none of its name. -/
theorem replacedAt_attach (hunder : (graph.view root).IsBranchAt dest)
    (hfree : graph.get? root (dest ++ [name]) = none) (node : Node) :
    ∃ after, graph.attach root dest name node = .ok after ∧
      ReplacedAt graph after root (dest ++ [name]) (some node) := by
  obtain ⟨kind, children, hget⟩ := get?_of_branch hunder
  have hname : Named.has name children = false := by
    rw [Named.has, ← get?_child hget, hfree]
    rfl
  obtain ⟨after, hok, hview⟩ :=
    @attach_of_free graph root dest name node hunder (view_eq_none_iff.2 hfree)
  refine ⟨after, hok, replacedAt_of_get? ?_ hview⟩
  simp only [attach, hget, hname, Bool.false_eq_true, if_false] at hok
  have hdest : after.get? root dest = some (.branch kind (Named.insert name node children)) :=
    get?_of_alter hget (by rfl) hok
  rw [get?_child hdest, Named.find?_insert_self]

/-! The nodes before and after. -/

/-- The paths that lead to nodes below a root. -/
def places (graph : Graph) (root : String) : Set Path :=
  {p | graph.get? root p ≠ none}

/-- The places of a root are the paths on which something is seen. -/
theorem mem_places_iff {p : Path} : p ∈ graph.places root ↔ graph.view root p ≠ none :=
  not_congr view_eq_none_iff.symm

/-- The nodes below a root correspond one to one as `f` tells their paths, and corresponding ones
are items with the same fields or branches of one kind: none is lost, and none comes twice. -/
structure Corresponds (before after : Graph) (root : String) (f : Path → Path) : Prop where
  bijOn : Set.BijOn f (before.places root) (after.places root)
  view : ∀ p ∈ before.places root, after.view root (f p) = before.view root p

/-- What is taken away at one path and put at another was seen below the first and is seen below
the second. -/
theorem ReplacedAt.get?_moved (h : ReplacedAt rest after root place (some node))
    (hnode : graph.get? root src = some node) (q : Path) :
    after.get? root (place ++ q) = graph.get? root (src ++ q) := by
  rw [h.below, get?_append, hnode]

/-- What stands beside a node that is moved to a free place stays there. -/
theorem ReplacedAt.view_kept (h : ReplacedAt graph rest root src none)
    (h' : ReplacedAt rest after root place (some node)) (hfree : rest.get? root place = none)
    {p : Path} (hbeside : ¬ src <+: p) (hp : p ∈ graph.places root) :
    ¬ place <+: p ∧ after.view root p = graph.view root p := by
  have hrest := h.view_elsewhere hbeside
  have hplace : ¬ place <+: p := by
    intro hbegins
    obtain ⟨q, rfl⟩ := hbegins
    refine mem_places_iff.1 hp ?_
    rw [← hrest, view_eq_none_iff, get?_append, hfree, Option.bind_none]
  exact ⟨hplace, (h'.view_elsewhere hplace).trans hrest⟩

/-- **Nothing is lost in a move, and nothing comes twice.** -/
theorem corresponds_relocate (h : ReplacedAt graph rest root src none)
    (h' : ReplacedAt rest after root place (some node)) (hnode : graph.get? root src = some node)
    (hfree : rest.get? root place = none) :
    Corresponds graph after root (Path.relocate src place) := by
  have hview : ∀ p ∈ graph.places root,
      after.view root (Path.relocate src place p) = graph.view root p := by
    intro p hp
    by_cases hbelow : src <+: p
    · obtain ⟨q, rfl⟩ := hbelow
      rw [Path.relocate_append, view, view, h'.get?_moved hnode]
    · rw [Path.relocate_elsewhere hbelow]
      exact (h.view_kept h' hfree hbelow hp).2
  refine ⟨⟨?mapsTo, ?injOn, ?surjOn⟩, hview⟩
  case mapsTo =>
    intro p hp
    rw [mem_places_iff, hview p hp]
    exact mem_places_iff.1 hp
  case injOn =>
    intro p hp p' hp' heq
    by_cases hbelow : src <+: p
    · obtain ⟨q, rfl⟩ := hbelow
      by_cases hbelow' : src <+: p'
      · obtain ⟨q', rfl⟩ := hbelow'
        rw [Path.relocate_append, Path.relocate_append] at heq
        rw [List.append_cancel_left heq]
      · rw [Path.relocate_append, Path.relocate_elsewhere hbelow'] at heq
        exact absurd ⟨q, heq⟩ (h.view_kept h' hfree hbelow' hp').1
    · rw [Path.relocate_elsewhere hbelow] at heq
      by_cases hbelow' : src <+: p'
      · obtain ⟨q', rfl⟩ := hbelow'
        rw [Path.relocate_append] at heq
        exact absurd ⟨q', heq.symm⟩ (h.view_kept h' hfree hbelow hp).1
      · rwa [Path.relocate_elsewhere hbelow'] at heq
  case surjOn =>
    intro p hp
    by_cases hplace : place <+: p
    · obtain ⟨q, rfl⟩ := hplace
      refine ⟨src ++ q, ?_, Path.relocate_append src place q⟩
      have hget : after.get? root (place ++ q) ≠ none := hp
      rwa [h'.get?_moved hnode] at hget
    · have hseen := mem_places_iff.1 hp
      rw [h'.view_elsewhere hplace] at hseen
      have hbelow : ¬ src <+: p := fun hbegins =>
        hseen (view_eq_none_iff.2 (h.get?_none_below hbegins))
      refine ⟨p, ?_, Path.relocate_elsewhere hbelow place⟩
      rwa [mem_places_iff, ← h.view_elsewhere hbelow]

/-- **A move, exactly.**  Without a node at its source a move is refused (not found) and changes
nothing.  Otherwise the node is removed, and all else is told by the graph without it.  There the
destination may be missing (not found), be an item (an invalid operation), or hold a node of that
name already (it exists already): then the move is refused, and the graph stays without the node.
Else the node comes to stand under the destination with all that is below it, no node is lost or
doubled, and what is neither at or below the source nor at or below the new place is as before.  So
a destination at or below the source loses the node, and moving a node to where it stands changes
nothing. -/
theorem move_outcomes (graph : Graph) (root : String) (src dest : Path) :
    let change := graph.move root src dest
    let place := Node.View.landing src dest
    (src = [] ∨ graph.get? root src = none → change.IsRefusal .notFound graph) ∧
    ∀ node, src ≠ [] → graph.get? root src = some node →
      ∃ rest, graph.delete root src = .ok rest ∧ graph.ReplacedAt rest root src none ∧
        (rest.get? root dest = none → change.IsRefusal .notFound rest) ∧
        ((rest.view root).IsItemAt dest → change.IsRefusal .invalidOperation rest) ∧
        ((rest.view root).IsBranchAt dest → rest.get? root place ≠ none →
          change.IsRefusal .alreadyExists rest) ∧
        ((rest.view root).IsBranchAt dest → rest.get? root place = none →
          change.fault? = none ∧ rest.ReplacedAt change.graph root place (some node) ∧
          (∀ q, change.graph.get? root (place ++ q) = graph.get? root (src ++ q)) ∧
          graph.Corresponds change.graph root (Path.relocate src place) ∧
          graph.AlikeBeside change.graph root [src, place]) ∧
        (src <+: dest → change.IsRefusal .notFound rest) ∧
        (dest = src.dropLast → change.fault? = none ∧ Alike change.graph graph) := by
  intro change place
  refine ⟨fun hnone => ?_, fun node hne hget => ?_⟩
  · rw [show change = _ from move_of_take?_none (take?_of_missing hnone) dest]
    exact ⟨rfl, rfl⟩
  · obtain ⟨above, name, rfl⟩ := Path.exists_above hne
    obtain ⟨rest, htake, hdelete, hrest⟩ := replacedAt_delete hne hget
    have hplace : place = dest ++ [name] := Node.View.landing_concat above name dest
    have hchange : change = .ofExcept rest (rest.attach root dest name node) :=
      move_of_take? htake dest
    have hmissing : rest.get? root dest = none → change.IsRefusal .notFound rest := by
      intro hnone
      rw [hchange, attach_nowhere hnone]
      exact ⟨rfl, rfl⟩
    have hdone : (rest.view root).IsBranchAt dest → rest.get? root place = none →
        change.fault? = none ∧ rest.ReplacedAt change.graph root place (some node) := by
      intro hunder hfree
      rw [hplace] at hfree ⊢
      obtain ⟨after, hok, hafter⟩ := replacedAt_attach hunder hfree node
      rw [hchange, hok]
      exact ⟨rfl, hafter⟩
    refine ⟨rest, hdelete, hrest, hmissing, ?item, ?taken, ?done,
      fun hbelow => hmissing (hrest.get?_none_below hbelow), ?back⟩
    case item =>
      intro hitem
      obtain ⟨item, hdest⟩ := isItemAt_iff.1 hitem
      rw [hchange, attach_to_item hdest]
      exact ⟨rfl, rfl⟩
    case taken =>
      intro hunder htaken
      rw [hplace] at htaken
      rw [hchange, attach_taken hunder htaken]
      exact ⟨rfl, rfl⟩
    case done =>
      intro hunder hfree
      obtain ⟨hnone, hafter⟩ := hdone hunder hfree
      exact ⟨hnone, hafter, hafter.get?_moved hget, corresponds_relocate hrest hafter hget hfree,
        hrest.beside.trans hafter.beside⟩
    case back =>
      intro hdest
      rw [List.dropLast_concat] at hdest
      subst hdest
      have hfree : rest.get? root place = none := by
        rw [hplace]
        exact hrest.get?
      obtain ⟨hnone, hafter⟩ := hdone (hrest.isBranchAt_above hget) hfree
      rw [hplace] at hafter
      exact ⟨hnone, hrest.restore hafter hget⟩

/-- A section that is moved into itself is lost. -/
example : move [("r", .branch .user [("a", .emptySection), ("b", .emptySection)])] "r" ["a"] ["a"] =
    ⟨[("r", .branch .user [("b", .emptySection)])], some .destinationMissing⟩ := by
  rfl

end Graph

end TaskTree
