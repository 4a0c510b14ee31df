import TaskTree.Server.Form

/-!
# What a form reads

The fields of a command are read as that command, if its root has a name, its path leads
somewhere, and no name in a path is empty or has a dot.  Otherwise there are problems, of which
all can be told (`decides_command`).  Each field is decided on its own, and a form decides what
all of its fields do.
-/

namespace TaskTree

/-! Commands that can be asked for. -/

/-- Every name of the path can be told in a request. -/
def Path.IsNamed (path : Path) : Prop :=
  ∀ segment ∈ path, segment ≠ "" ∧ Path.separator ∉ segment.toList

instance (path : Path) : Decidable path.IsNamed :=
  inferInstanceAs (Decidable (∀ segment ∈ path, segment ≠ "" ∧ Path.separator ∉ segment.toList))

/-- The root of a command has a name, its path leads somewhere below it, and no name in a path is
empty or has a dot. -/
def CommandOf.IsWellFormed : Command → Prop
  | .createRoot root => root ≠ ""
  | .createSection root path | .createItem root path .. | .updateItem root path ..
  | .toggleItem root path | .archive root path => root ≠ "" ∧ path ≠ [] ∧ path.IsNamed
  | .move root src dest => root ≠ "" ∧ (src ≠ [] ∧ src.IsNamed) ∧ dest.IsNamed

instance : DecidablePred CommandOf.IsWellFormed := fun command =>
  match command with
  | .createRoot root => inferInstanceAs (Decidable (root ≠ ""))
  | .createSection root path | .createItem root path .. | .updateItem root path ..
  | .toggleItem root path | .archive root path =>
    inferInstanceAs (Decidable (root ≠ "" ∧ path ≠ [] ∧ path.IsNamed))
  | .move root src dest =>
    inferInstanceAs (Decidable (root ≠ "" ∧ (src ≠ [] ∧ src.IsNamed) ∧ dest.IsNamed))

/-! Values that are sent. -/

namespace Json

/-- All is finite when each value is. -/
theorem allFinite_iff {vs : List Json} : allFinite vs = true ↔ ∀ v ∈ vs, v.isFinite = true := by
  induction vs with
  | nil => simp [allFinite]
  | cons v rest ih => simp [allFinite, ih]

/-- A list of texts can be told. -/
theorem isFinite_ofStrings (texts : List String) : (ofStrings texts).isFinite = true := by
  have hall : ∀ v ∈ texts.map Json.string, v.isFinite = true := by
    intro v hv
    obtain ⟨text, -, rfl⟩ := List.mem_map.1 hv
    rfl
  rw [ofStrings, isFinite]
  exact allFinite_iff.2 hall

end Json

/-- A command has no numbers. -/
theorem Command.isFinite_fields (command : Command) :
    (Json.object (Command.fields command)).isFinite = true := by
  cases command <;>
    simp [Command.fields, CommandOf.fields, Json.isFinite, Json.allMembersFinite,
      Json.isFinite_ofStrings]

/-- A problem with a field can be told if its value can. -/
theorem Problem.isFinite_ofField (kind : Kind) (field : String) {input : Json}
    (h : input.isFinite = true) : (ofField kind field input).toJson.isFinite = true := by
  simp [ofField, toJson, Json.isFinite, Json.allMembersFinite, Json.allFinite, h]

/-! Checks that find a value exactly if it is good. -/

namespace Checked

variable {α β : Type} {good more : Prop}

/-- The check yields this value if it is good, and problems otherwise, all of which can be told. -/
def Decides (check : Checked α) (good : Prop) (a : α) : Prop :=
  (good ∧ check = .value a) ∨
    (¬ good ∧ ∃ first rest, check = .problems first rest ∧
      ∀ p ∈ first :: rest, p.toJson.isFinite = true)

/-- A value that is yielded is good. -/
theorem decides_value (a : α) : Decides (.value a) True a := .inl ⟨trivial, rfl⟩

/-- A problem that can be told decides against what is not good. -/
theorem decides_problem {p : Problem} (hp : p.toJson.isFinite = true) (hbad : ¬ good) (a : α) :
    Decides (problem p) good a := by
  refine .inr ⟨hbad, p, [], rfl, ?_⟩
  intro q hq
  rw [List.mem_singleton.1 hq]
  exact hp

/-- What decides one thing decides what is as much as that. -/
theorem Decides.congr {check : Checked α} {a : α} (h : Decides check good a)
    (hiff : good ↔ more) : Decides check more a :=
  propext hiff ▸ h

/-- A decision is carried over to what is made of the value. -/
theorem Decides.map {check : Checked α} {a : α} (h : Decides check good a) (f : α → β) :
    Decides (check.map f) good (f a) := by
  rcases h with ⟨hgood, rfl⟩ | ⟨hbad, first, rest, rfl, hall⟩
  · exact .inl ⟨hgood, rfl⟩
  · exact .inr ⟨hbad, first, rest, rfl, hall⟩

/-- Two checks together find both values exactly if both are good. -/
theorem Decides.both {check : Checked α} {next : Checked β} {a : α} {b : β}
    (h : Decides check good a) (h' : Decides next more b) :
    Decides (check.both next) (good ∧ more) (a, b) := by
  rcases h with ⟨hgood, rfl⟩ | ⟨hbad, first, rest, rfl, hall⟩
  · rcases h' with ⟨hgood', rfl⟩ | ⟨hbad', first', rest', rfl, hall'⟩
    · exact .inl ⟨⟨hgood, hgood'⟩, rfl⟩
    · exact .inr ⟨fun hboth => hbad' hboth.2, first', rest', rfl, hall'⟩
  · rcases h' with ⟨-, rfl⟩ | ⟨-, first', rest', rfl, hall'⟩
    · exact .inr ⟨fun hboth => hbad hboth.1, first, rest, rfl, hall⟩
    · refine .inr ⟨fun hboth => hbad hboth.1, first, rest ++ first' :: rest', rfl, ?_⟩
      intro p hp
      rw [← List.cons_append] at hp
      rcases List.mem_append.1 hp with hp | hp
      · exact hall p hp
      · exact hall' p hp

end Checked

/-! Fields. -/

namespace Form

open Checked

/-- The name of a root is good when it is not empty. -/
theorem decides_rootName (name root : String) :
    (rootName name (.string root)).Decides (root ≠ "") root := by
  by_cases hroot : root = ""
  · subst hroot
    exact decides_problem (Problem.isFinite_ofField _ _ rfl) (fun hne => hne rfl) ""
  · have hvalue : rootName name (.string root) = .value root := by
      unfold rootName
      split
      · next heq => exact (hroot (Json.string.inj heq)).elim
      · rfl
    exact .inl ⟨hroot, hvalue⟩

/-- A list of texts passes as the path it is. -/
theorem texts_strings (name : String) (index : Nat) (path : Path) :
    texts name index (path.map .string) = .value path := by
  induction path generalizing index with
  | nil => rfl
  | cons segment rest ih =>
    rw [List.map_cons, texts, ih]
    rfl

/-- No name of a path is at fault exactly when the path is named. -/
theorem segmentFault?_eq_none_iff {path : Path} : segmentFault? path = none ↔ path.IsNamed := by
  induction path with
  | nil => simp [segmentFault?, Path.IsNamed]
  | cons segment rest ih =>
    have hcons : Path.IsNamed (segment :: rest) ↔
        (segment ≠ "" ∧ Path.separator ∉ segment.toList) ∧ Path.IsNamed rest :=
      List.forall_mem_cons
    rw [hcons, ← ih, segmentFault?]
    by_cases hempty : segment = ""
    · simp [hempty]
    · by_cases hdot : Path.separator ∈ segment.toList
      · simp [hempty, hdot]
      · simp [hempty, hdot]

/-- Names are good when the path they make is named. -/
theorem decides_segments (name : String) (path : Path) :
    (segments name (.ofStrings path)).Decides path.IsNamed path := by
  unfold Json.ofStrings segments
  simp only [texts_strings]
  cases hfault : segmentFault? path with
  | none => exact .inl ⟨segmentFault?_eq_none_iff.1 hfault, rfl⟩
  | some kind =>
    have hunnamed : ¬ path.IsNamed := by
      intro hnamed
      rw [segmentFault?_eq_none_iff.2 hnamed] at hfault
      cases hfault
    exact decides_problem (Problem.isFinite_ofField kind name (Json.isFinite_ofStrings path))
      hunnamed path

/-- The path of a node is good when it is named and not empty. -/
theorem decides_nodePath (name : String) (path : Path) :
    (nodePath name (.ofStrings path)).Decides (path ≠ [] ∧ path.IsNamed) path := by
  cases path with
  | nil =>
    exact decides_problem (Problem.isFinite_ofField _ _ rfl) (fun hgood => hgood.1 rfl) []
  | cons segment rest =>
    have hne : segment :: rest ≠ [] := List.cons_ne_nil segment rest
    exact (decides_segments name (segment :: rest)).congr ⟨fun h => ⟨hne, h⟩, fun h => h.2⟩

/-- Every word of a state is good. -/
theorem decides_state (name : String) (state : TaskState) :
    (Form.state name (.string state.word)).Decides True state := by
  have hvalue : Form.state name (.string state.word) = .value state := by
    simp [Form.state, Node.stateOfJson?, Checked.ofOption]
  rw [hvalue]
  exact decides_value state

/-! Forms. -/

/-- The fields that tell a root and a path, whatever comes after them. -/
theorem decides_placed (root : String) (path : Path) (more : List (String × Json)) :
    (placed (("root", .string root) :: ("path", .ofStrings path) :: more)).Decides
      (root ≠ "" ∧ path ≠ [] ∧ path.IsNamed) (root, path) :=
  (decides_rootName "root" root).both (decides_nodePath "path" path)

/-- The fields of an item. -/
theorem decides_itemised (root : String) (path : Path) (item : Item) :
    (itemised [("root", .string root), ("path", .ofStrings path), ("title", .string item.title),
      ("description", .string item.description), ("state", .string item.state.word)]).Decides
      (root ≠ "" ∧ path ≠ [] ∧ path.IsNamed) ((root, path), item) := by
  have htexts := (decides_value item.title).both
    ((decides_value item.description).both (decides_state "state" item.state))
  have hitem := htexts.map fun fields => (⟨fields.1, fields.2.1, fields.2.2⟩ : Item)
  refine ((decides_placed root path _).both hitem).congr ?_
  simp only [and_true]

/-- **What a form reads.**  The fields of a command are read as the command, if it is well formed,
and otherwise there are problems that can be told. -/
theorem decides_command (command : Command) :
    (Form.command command.kind (Command.fields command)).Decides command.IsWellFormed command := by
  cases command with
  | createRoot root => exact (decides_rootName "root" root).map _
  | createSection root path => exact (decides_placed root path []).map _
  | createItem root path title description state =>
    exact (decides_itemised root path ⟨title, description, state⟩).map _
  | updateItem root path title description state =>
    exact (decides_itemised root path ⟨title, description, state⟩).map _
  | toggleItem root path => exact (decides_placed root path []).map _
  | move root src dest =>
    exact ((decides_rootName "root" root).both
      ((decides_nodePath "src" src).both (decides_segments "dest" dest))).map _
  | archive root path => exact (decides_placed root path []).map _

end Form

end TaskTree
