import Mathlib.Data.List.Forall2
import TaskTree.Node.Drawing
import TaskTree.Text.Split
import TaskTree.Proofs.Node.Places

/-!
# What a drawing shows

A line of a drawing stands for one place.  It is read from the left, four
characters at a time, up to the first group that joins a node to its siblings;
what follows is the label, whatever it looks like (`readStrokes`).  The groups
tell how deep the place is, and for each node on the way down whether siblings
come after it (`strokesTo`).

One step down puts one group in front of every line (`Shows.under`).  So the
lines show the places one after another (`shows_drawLines`), and they are what
the drawing is split into at its line feeds: the drawing shows the tree
(`draw_shows`).
-/

namespace TaskTree.Node

/-- No name and no title in a node holds a line feed. -/
inductive IsUnbroken : Node → Prop
  | leaf {item : Item} (title : '\n' ∉ item.title.toList) : IsUnbroken (.leaf item)
  | branch {kind : BranchKind} {children : List (String × Node)}
      (names : ∀ entry ∈ children, '\n' ∉ entry.1.toList)
      (below : ∀ entry ∈ children, IsUnbroken entry.2) : IsUnbroken (.branch kind children)

/-! Strokes. -/

/-- The groups of four characters in front of a label. -/
inductive Stroke where
  /-- A node that siblings come after. -/
  | fork
  /-- The last of its siblings. -/
  | corner
  /-- Past a node that siblings come after. -/
  | bar
  /-- Below the last of some siblings. -/
  | gap
  deriving DecidableEq, Repr

namespace Stroke

/-- The characters of a stroke. -/
def text : Stroke → String
  | fork => "├── "
  | corner => "└── "
  | bar => "│   "
  | gap => "    "

/-- A stroke joins a node to its siblings, and its label comes next. -/
def joins : Stroke → Bool
  | fork | corner => true
  | bar | gap => false

/-- The stroke that four characters are. -/
def ofChars? (cs : List Char) : Option Stroke :=
  [fork, corner, bar, gap].find? fun stroke => stroke.text.toList = cs

end Stroke

/-- The strokes at the front of a line, as far as the first that joins, and the text behind it. -/
def readStrokes : List Char → Option (List Stroke × String)
  | a :: b :: c :: d :: rest =>
    match Stroke.ofChars? [a, b, c, d] with
    | none => none
    | some stroke =>
      if stroke.joins then some ([stroke], String.ofList rest)
      else (readStrokes rest).map fun read => (stroke :: read.1, read.2)
  | _ => none

/-- A line is read stroke by stroke. -/
theorem readStrokes_text (stroke : Stroke) (rest : List Char) :
    readStrokes (stroke.text.toList ++ rest) =
      if stroke.joins then some ([stroke], String.ofList rest)
      else (readStrokes rest).map fun read => (stroke :: read.1, read.2) := by
  cases stroke <;> rfl

/-! What a line should tell of a place. -/

/-- Siblings of the node at the end of a path come after it: they have greater names. -/
def hasLater (node : Node) (path : Path) : Bool :=
  match path.getLast?, node.get? path.dropLast with
  | some segment, some parent => parent.children.any fun entry => decide (segment < entry.1)
  | _, _ => false

/-- The strokes for a place: one for each node on the way down to it, of which the one for the
node itself joins it to its siblings. -/
def strokesTo (node : Node) (path : Path) : List Stroke :=
  (List.range path.length).map fun i =>
    if i + 1 = path.length then
      if node.hasLater (path.take (i + 1)) then .fork else .corner
    else
      if node.hasLater (path.take (i + 1)) then .bar else .gap

/-- The line shows the node at the end of a path. -/
inductive Shows (name : String) (node : Node) : Path → String → Prop
  | top : Shows name node [] (label name node)
  | below (above : Path) {segment : String} {child : Node} {line : String}
      (stands : node.get? (above ++ [segment]) = some child)
      (read : readStrokes line.toList =
        some (node.strokesTo (above ++ [segment]), label segment child)) :
      Shows name node (above ++ [segment]) line

/-- The connector of a line is the stroke for the last of its siblings or for another. -/
theorem connector_eq (last : Bool) :
    connector last = (if last then Stroke.corner else Stroke.fork).text := by
  cases last <;> rfl

/-- The continuation of a line is the stroke for the last of its siblings or for another. -/
theorem continuation_eq (last : Bool) :
    continuation last = (if last then Stroke.gap else Stroke.bar).text := by
  cases last <;> rfl

theorem strokesTo_singleton (node : Node) (segment : String) :
    node.strokesTo [segment] = [if node.hasLater [segment] then .fork else .corner] := rfl

section Child

variable {kind : BranchKind} {children : Named Node} {segment : String} {child : Node}

/-- What comes after a node below a child is seen from the child. -/
theorem hasLater_cons (hfound : Named.find? segment children = some child) {rest : Path}
    (hne : rest ≠ []) :
    (Node.branch kind children).hasLater (segment :: rest) = child.hasLater rest := by
  have hlast : (segment :: rest).getLast? = rest.getLast? := by
    cases rest with
    | nil => exact absurd rfl hne
    | cons next more => rfl
  have hparent : (Node.branch kind children).get? (segment :: rest).dropLast =
      child.get? rest.dropLast := by
    rw [List.dropLast_cons_of_ne_nil hne, get?, hfound]
  unfold hasLater
  rw [hlast, hparent]

/-- One step down puts one stroke in front of those for a place further below. -/
theorem strokesTo_cons (hfound : Named.find? segment children = some child) {rest : Path}
    (hne : rest ≠ []) :
    (Node.branch kind children).strokesTo (segment :: rest) =
      (if (Node.branch kind children).hasLater [segment] then .bar else .gap) ::
        child.strokesTo rest := by
  have hdeep : ¬ 0 + 1 = rest.length + 1 := by
    have hpos := List.length_pos_iff.2 hne
    omega
  have hrest : ∀ i ∈ List.range rest.length,
      (Node.branch kind children).hasLater ((segment :: rest).take (i + 1 + 1)) =
        child.hasLater (rest.take (i + 1)) := by
    intro i hi
    have hlt := List.mem_range.1 hi
    rw [List.take_succ_cons]
    apply hasLater_cons hfound
    intro hnil
    have hlength := congrArg List.length hnil
    rw [List.length_take, List.length_nil] at hlength
    omega
  unfold strokesTo
  rw [List.length_cons, List.range_succ_eq_map, List.map_cons, List.map_map]
  congr 1
  · rw [if_neg hdeep]
    rfl
  · refine List.map_congr_left fun i hi => ?_
    simp only [Function.comp, Nat.succ_eq_add_one, hrest i hi, Nat.add_right_cancel_iff]

/-- The line of a place shows it from above with one stroke more in front: the line of the child
itself gets one that joins it to its siblings, those of the places below it one that goes past. -/
theorem Shows.under (name : String) (hfound : Named.find? segment children = some child)
    {path : Path} {line : String} (h : child.Shows segment path line) :
    (Node.branch kind children).Shows name (segment :: path)
      ((if path = [] then connector (!(Node.branch kind children).hasLater [segment])
        else continuation (!(Node.branch kind children).hasLater [segment])) ++ line) := by
  cases h with
  | top =>
    have hread : readStrokes (connector (!(Node.branch kind children).hasLater [segment]) ++
        label segment child).toList =
          some ((Node.branch kind children).strokesTo [segment], label segment child) := by
      rw [connector_eq, String.toList_append, readStrokes_text, strokesTo_singleton]
      cases (Node.branch kind children).hasLater [segment] <;> simp [Stroke.joins]
    rw [if_pos rfl]
    refine Shows.below [] ?_ hread
    simp [get?, hfound]
  | @below above last sub _ stands read =>
    have hne : above ++ [last] ≠ [] := by simp
    have hread : readStrokes (continuation (!(Node.branch kind children).hasLater [segment]) ++
        line).toList =
          some ((Node.branch kind children).strokesTo (segment :: (above ++ [last])),
            label last sub) := by
      rw [continuation_eq, String.toList_append, readStrokes_text, strokesTo_cons hfound hne, read]
      cases (Node.branch kind children).hasLater [segment] <;> simp [Stroke.joins]
    rw [if_neg hne]
    refine Shows.below (segment :: above) ?_ hread
    simp [get?, hfound, stands]

/-- Strokes in front of the lines of a child make them lines of the branch above it. -/
theorem shows_strokes (name : String) (hfound : Named.find? segment children = some child)
    {lines : List String} (h : List.Forall₂ (child.Shows segment) child.places lines) :
    List.Forall₂ ((Node.branch kind children).Shows name) (placesUnder (segment, child))
      (joinSiblings.strokes (!(Node.branch kind children).hasLater [segment]) lines) := by
  obtain ⟨below, hplaces, hbelow⟩ := child.exists_places_eq
  rw [placesUnder, hplaces]
  rw [hplaces] at h
  cases h with
  | @cons _ first _ rest hfirst hrest =>
    rw [joinSiblings.strokes, List.map_cons]
    refine .cons ?_ ?_
    · simpa using hfirst.under name hfound
    · rw [List.forall₂_map_left_iff, List.forall₂_map_right_iff]
      refine ((List.forall₂_and_left _ _).2 ⟨hbelow, hrest⟩).imp ?_
      rintro path line ⟨hne, hshows⟩
      simpa [hne] using hshows.under name hfound

end Child

/-- The drawings of siblings stand one below the other, each with its strokes. -/
theorem joinSiblings_cons (lines : List String) (rest : List (List String)) :
    joinSiblings (lines :: rest) =
      joinSiblings.strokes rest.isEmpty lines ++ joinSiblings rest := by
  cases rest with
  | nil => simp [joinSiblings]
  | cons next more => simp [joinSiblings]

/-- Children are drawn one by one. -/
theorem drawChildren_eq (children : List (String × Node)) :
    drawChildren children = children.map fun entry => (entry.1, entry.2.drawLines entry.1) := by
  induction children with
  | nil => rfl
  | cons entry rest ih => rw [drawChildren, ih]; rfl

/-- A branch is drawn as its name and then its children in the order of their names. -/
theorem drawLines_branch (name : String) (kind : BranchKind) (children : Named Node) :
    (Node.branch kind children).drawLines name = name ::
      joinSiblings ((Named.sorted children).map fun entry => entry.2.drawLines entry.1) := by
  rw [drawLines, drawChildren_eq,
    Named.sorted_map fun entry : String × Node => entry.2.drawLines entry.1, List.map_map]
  rfl

/-- Siblings in order show their places in the branch above them, the last of them as the last.  By
induction on those that are still to come: those that came before are never later. -/
theorem shows_siblings (name : String) (kind : BranchKind) {children : Named Node}
    {siblings : Named Node} (hincreasing : siblings.Pairwise fun a b => a.1 < b.1)
    (hfound : ∀ entry ∈ siblings, Named.find? entry.1 children = some entry.2)
    (hlater : ∀ entry ∈ siblings, (Node.branch kind children).hasLater [entry.1] = true ↔
      ∃ other ∈ siblings, entry.1 < other.1)
    (hshows : ∀ entry ∈ siblings,
      List.Forall₂ (entry.2.Shows entry.1) entry.2.places (entry.2.drawLines entry.1)) :
    List.Forall₂ ((Node.branch kind children).Shows name) (siblings.flatMap placesUnder)
      (joinSiblings (siblings.map fun entry => entry.2.drawLines entry.1)) := by
  induction siblings with
  | nil => exact .nil
  | cons entry rest ih =>
    obtain ⟨hleast, hrest⟩ := List.pairwise_cons.1 hincreasing
    simp only [List.forall_mem_cons] at hfound hlater hshows
    have hlast : (rest.map fun entry => entry.2.drawLines entry.1).isEmpty =
        !(Node.branch kind children).hasLater [entry.1] := by
      cases rest with
      | nil =>
        have hnone : ¬ (Node.branch kind children).hasLater [entry.1] = true := by
          rw [hlater.1]
          rintro ⟨other, hmem, hlt⟩
          obtain rfl := List.mem_singleton.1 hmem
          exact String.lt_irrefl _ hlt
        simp [Bool.eq_false_iff.2 hnone]
      | cons next more =>
        have hsome : (Node.branch kind children).hasLater [entry.1] = true :=
          hlater.1.2 ⟨next, by simp, hleast next (by simp)⟩
        simp [hsome]
    have hlater' : ∀ other ∈ rest, (Node.branch kind children).hasLater [other.1] = true ↔
        ∃ further ∈ rest, other.1 < further.1 := by
      intro other hmem
      rw [hlater.2 other hmem]
      constructor
      · rintro ⟨further, hfurther, hlt⟩
        refine ⟨further, (List.mem_cons.1 hfurther).resolve_left ?_, hlt⟩
        rintro rfl
        exact String.lt_asymm (hleast other hmem) hlt
      · rintro ⟨further, hfurther, hlt⟩
        exact ⟨further, List.mem_cons_of_mem _ hfurther, hlt⟩
    rw [List.flatMap_cons, List.map_cons, joinSiblings_cons, hlast]
    exact List.rel_append (shows_strokes name hfound.1 hshows.1)
      (ih hrest hfound.2 hlater' hshows.2)

/-- Siblings come after a child if the branch has children of greater names. -/
theorem hasLater_singleton (kind : BranchKind) (children : Named Node) (segment : String) :
    (Node.branch kind children).hasLater [segment] = true ↔
      ∃ other ∈ Named.sorted children, segment < other.1 := by
  simp [hasLater, get?, Node.children, Named.mem_sorted]

/-- Each line of a drawing shows the place that it stands for. -/
theorem shows_drawLines {node : Node} (h : IsMapped node) (name : String) :
    List.Forall₂ (node.Shows name) node.places (node.drawLines name) := by
  induction node using byChildren generalizing name with
  | leaf item => exact .cons .top .nil
  | branch kind children ih =>
    obtain ⟨hdistinct, hbelow⟩ := h.children
    rw [places_branch, drawLines_branch]
    refine .cons .top (shows_siblings name kind (Named.sorted_increasing hdistinct) ?_ ?_ ?_)
    · intro entry hentry
      exact Named.find?_of_mem hdistinct (Named.mem_sorted.1 hentry)
    · intro entry hentry
      exact hasLater_singleton kind children entry.1
    · intro entry hentry
      have hmem := Named.mem_sorted.1 hentry
      exact ih entry hmem (hbelow entry hmem) entry.1

/-! Lines and the text that they make. -/

/-- The characters of joined lines are those of the lines, joined by line breaks. -/
theorem toList_intercalate_lines (lines : List String) :
    (String.intercalate "\n" lines).toList = Text.join '\n' (lines.map String.toList) := by
  induction lines with
  | nil => rfl
  | cons line rest ih =>
    cases rest with
    | nil => simp [Text.join]
    | cons next more =>
      rw [String.intercalate_cons_cons, String.toList_append, String.toList_append, ih]
      simp [Text.join]

/-- Below a branch each line is a line of one of the siblings, with a stroke in front. -/
theorem exists_of_mem_joinSiblings {drawings : List (List String)} {line : String}
    (h : line ∈ joinSiblings drawings) :
    ∃ lines ∈ drawings, ∃ inner ∈ lines, ∃ stroke : Stroke, line = stroke.text ++ inner := by
  induction drawings with
  | nil => cases h
  | cons lines rest ih =>
    rw [joinSiblings_cons, List.mem_append] at h
    rcases h with h | h
    · cases lines with
      | nil => cases h
      | cons first below =>
        rw [joinSiblings.strokes, List.mem_cons, List.mem_map] at h
        refine ⟨_, List.mem_cons_self, ?_⟩
        rcases h with rfl | ⟨inner, hinner, rfl⟩
        · exact ⟨first, by simp, _, congrArg (· ++ first) (connector_eq _)⟩
        · exact ⟨inner, by simp [hinner], _, congrArg (· ++ inner) (continuation_eq _)⟩
    · obtain ⟨lines', hlines', hinner⟩ := ih h
      exact ⟨lines', List.mem_cons_of_mem _ hlines', hinner⟩

/-- No line of a drawing holds a line feed if no name and no title does. -/
theorem not_mem_drawLines {node : Node} (h : node.IsUnbroken) {name : String}
    (hname : '\n' ∉ name.toList) {line : String} (hline : line ∈ node.drawLines name) :
    '\n' ∉ line.toList := by
  have hstroke : ∀ stroke : Stroke, '\n' ∉ stroke.text.toList := by
    intro stroke
    cases stroke <;> decide
  induction node using byChildren generalizing name line with
  | leaf item =>
    have htitle : '\n' ∉ item.title.toList := by
      cases h with
      | leaf title => exact title
    obtain rfl := List.mem_singleton.1 hline
    cases hstate : item.state <;> simp [label, hstate, htitle]
  | branch kind children ih =>
    cases h with
    | branch names below =>
      rw [drawLines_branch, List.mem_cons] at hline
      rcases hline with rfl | hline
      · exact hname
      · obtain ⟨lines, hlines, inner, hinner, stroke, rfl⟩ := exists_of_mem_joinSiblings hline
        obtain ⟨entry, hentry, rfl⟩ := List.mem_map.1 hlines
        have hmem := Named.mem_sorted.1 hentry
        rw [String.toList_append, List.mem_append, not_or]
        exact ⟨hstroke stroke, ih entry hmem (below entry hmem) (names entry hmem) hinner⟩

/-- Split at its line feeds, a drawing is its lines again. -/
theorem split_draw {node : Node} (h : node.IsUnbroken) {name : String}
    (hname : '\n' ∉ name.toList) :
    (Text.split '\n' (node.draw name).toList).map String.ofList = node.drawLines name := by
  have hne : (node.drawLines name).map String.toList ≠ [] := by
    cases node <;> simp [drawLines]
  have hpieces : ∀ piece ∈ (node.drawLines name).map String.toList, '\n' ∉ piece := by
    intro piece hpiece
    obtain ⟨line, hline, rfl⟩ := List.mem_map.1 hpiece
    exact not_mem_drawLines h hname hline
  rw [draw, toList_intercalate_lines, Text.split_join hne hpieces, List.map_map]
  simp [Function.comp_def]

/-- **The drawing shows the tree.**  Split at its line feeds, a drawing has one line for each node
in the tree, each before the nodes below it and siblings in the order of their names.  The first
line is the label of the tree itself.  Of each other node the line tells how deep it is, whether
siblings come after it and after the nodes above it, and its label, though labels may look like
strokes themselves. -/
theorem draw_shows {node : Node} (hmapped : node.IsMapped) (hunbroken : node.IsUnbroken)
    {name : String} (hname : '\n' ∉ name.toList) :
    (∀ path, path ∈ node.places ↔ (node.get? path).isSome) ∧ node.places.Pairwise (· < ·) ∧
      List.Forall₂ (node.Shows name) node.places
        ((Text.split '\n' (node.draw name).toList).map String.ofList) := by
  refine ⟨fun path => mem_places_iff hmapped, places_increasing hmapped, ?_⟩
  rw [split_draw hunbroken hname]
  exact shows_drawLines hmapped name

/-- A user with an item and a section, which came first, and in the section an item whose title
looks like strokes. -/
def household : Node :=
  .branch .user
    [("inbox", .branch .group [("milk", .leaf ⟨"└── ", "", .notDone⟩)]),
     ("bob", .leaf ⟨"call bob", "", .done⟩)]

/-- A done item, and a section with an open one whose title looks like a connector. -/
theorem draw_shows_household :
    household.IsMapped ∧ household.IsUnbroken ∧ '\n' ∉ "alice".toList ∧
    household.places = [[], ["bob"], ["inbox"], ["inbox", "milk"]] ∧
    (Text.split '\n' (household.draw "alice").toList).map String.ofList =
      ["alice", "├── [x] call bob", "└── inbox", "    └── [ ] └── "] ∧
    List.Forall₂ (household.Shows "alice") [[], ["bob"], ["inbox"], ["inbox", "milk"]]
      ["alice", "├── [x] call bob", "└── inbox", "    └── [ ] └── "] := by
  have hmapped : household.IsMapped := by
    refine .branch (by decide) ?_
    simp only [List.forall_mem_cons]
    refine ⟨.branch (by decide) ?_, .leaf _, by simp⟩
    simp only [List.forall_mem_cons]
    exact ⟨.leaf _, by simp⟩
  have hunbroken : household.IsUnbroken := by
    refine .branch (by decide) ?_
    simp only [List.forall_mem_cons]
    refine ⟨.branch (by decide) ?_, .leaf (by decide), by simp⟩
    simp only [List.forall_mem_cons]
    exact ⟨.leaf (by decide), by simp⟩
  have hname : '\n' ∉ "alice".toList := by decide
  have hsorted {α : Type} (u v : α) :
      Named.sorted [("inbox", u), ("bob", v)] = [("bob", v), ("inbox", u)] := by
    refine (Named.sorted_eq_of_perm ?_ (List.Perm.swap ..)).trans ?_
    · simp [Named.IsDistinct, Named.names]
    · exact List.mergeSort_of_pairwise (by simp)
  have hsingle {α : Type} (u : α) : Named.sorted [("milk", u)] = [("milk", u)] :=
    List.mergeSort_singleton _
  have hplaces : household.places = [[], ["bob"], ["inbox"], ["inbox", "milk"]] := by
    simp [household, places, placesBelow, hsorted, hsingle]
  have hlines : household.drawLines "alice" =
      ["alice", "├── [x] call bob", "└── inbox", "    └── [ ] └── "] := by
    simp [household, drawLines, drawChildren, hsorted, hsingle, joinSiblings, joinSiblings.strokes,
      label, connector, continuation]
  have hsplit := (split_draw hunbroken hname).trans hlines
  obtain ⟨-, -, hshows⟩ := draw_shows hmapped hunbroken hname
  rw [hplaces, hsplit] at hshows
  exact ⟨hmapped, hunbroken, hname, hplaces, hsplit, hshows⟩

end TaskTree.Node
