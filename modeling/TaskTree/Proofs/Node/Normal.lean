import TaskTree.Proofs.Graph.Reading
import TaskTree.Proofs.Node.Depth

/-!
# Values in normal form

A value describes a node if it is the object of an item with its fields, or that of a branch all of
whose other members describe nodes (`Json.IsNode`).  These are the values that are read, and any
other is refused as one that cannot be parsed.  What was read is written again in normal form
(`toJson_of_ofJsonAt`): the kind comes first, the fields of an item and the names in a branch have
their order, and what an item has besides its fields is gone.  So reading and writing a value
normalises it, and doing so again changes nothing (`reading_normalises`).
-/

namespace TaskTree

namespace Json

mutual

/-- The number of arrays and objects inside each other. -/
def levels : Json → Nat
  | .array elements => levelsOfElements elements + 1
  | .object members => levelsBelow members + 1
  | _ => 0

/-- The most levels of an element. -/
def levelsOfElements : List Json → Nat
  | [] => 0
  | v :: rest => max v.levels (levelsOfElements rest)

/-- The most levels of a member. -/
def levelsBelow : List (String × Json) → Nat
  | [] => 0
  | (_, v) :: rest => max v.levels (levelsBelow rest)

end

/-- The value describes a node. -/
inductive IsNode : Json → Prop
  | item {members : List (String × Json)} {title description : String} {state : TaskState}
      (kind : Named.find? Path.reserved members = some (.string "item"))
      (title : Named.find? "title" members = some (.string title))
      (description : Named.find? "description" members = some (.string description))
      (state : Named.find? "state" members = some (.string state.word)) : IsNode (.object members)
  | branch {members : List (String × Json)} {branchKind : BranchKind}
      (kind : Named.find? Path.reserved members = some (.string branchKind.word))
      (below : ∀ member ∈ members, member.1 ≠ Path.reserved → IsNode member.2) :
      IsNode (.object members)

/-- The fields of an item in their order, after its kind. -/
def itemFields : List String := [Path.reserved, "title", "description", "state"]

/-- The kind that members tell is that of an item. -/
def tellsItem (members : Named Json) : Bool :=
  (Named.find? Path.reserved members).bind string? = some "item"

/-- Members with the one that tells the kind in front, and the others in the order of their
names. -/
def kindFirst (members : Named Json) : Named Json :=
  members.filter (fun member => member.1 = Path.reserved) ++
    Named.sorted (Named.erase Path.reserved members)

mutual

/-- The value with the members of each object in their order, and of those of an item no more than
its fields. -/
def normal : Json → Json
  | .object members =>
    if tellsItem members then
      .object (itemFields.filterMap fun name => (Named.find? name members).map (name, ·))
    else .object (kindFirst (normalBelow members))
  | v => v

/-- The normal forms of members, under their names. -/
def normalBelow : List (String × Json) → List (String × Json)
  | [] => []
  | (name, v) :: rest => (name, v.normal) :: normalBelow rest

end

/-- Members are normalised one by one. -/
theorem normalBelow_eq (members : List (String × Json)) :
    normalBelow members = Named.mapThings normal members := by
  induction members with
  | nil => rfl
  | cons member rest ih => rw [normalBelow, ih]; rfl

/-- A member has no more levels than all of them. -/
theorem levels_le_levelsBelow {members : List (String × Json)} {member : String × Json}
    (h : member ∈ members) : member.2.levels ≤ levelsBelow members := by
  induction members with
  | nil => cases h
  | cons first rest ih =>
    rw [levelsBelow]
    rcases List.mem_cons.1 h with rfl | h
    · exact Nat.le_max_left _ _
    · exact Nat.le_trans (ih h) (Nat.le_max_right _ _)

/-- In a mapping, the kind that is told comes first. -/
theorem kindFirst_of_find? {members : Named Json} (hd : Named.IsDistinct members) {v : Json}
    (h : Named.find? Path.reserved members = some v) :
    kindFirst members =
      (Path.reserved, v) :: Named.sorted (Named.erase Path.reserved members) := by
  have honly : members.filter (fun member => member.1 = Path.reserved) = [(Path.reserved, v)] := by
    induction members with
    | nil => cases h
    | cons first rest ih =>
      obtain ⟨name, w⟩ := first
      obtain ⟨hnew, hrest⟩ := Named.isDistinct_cons.1 hd
      by_cases hname : name = Path.reserved
      · subst hname
        obtain rfl : w = v := by simpa [Named.find?] using h
        have hnone : rest.filter (fun member => member.1 = Path.reserved) = [] := by
          refine List.filter_eq_nil_iff.2 fun member hmem heq => hnew ?_
          exact List.mem_map.2 ⟨member, hmem, of_decide_eq_true heq⟩
        simp [hnone]
      · have hfound : Named.find? Path.reserved rest = some v := by
          simpa [Named.find?, hname] using h
        simpa [hname] using ih hrest hfound
  rw [kindFirst, honly]
  rfl

end Json

/-- A word means the branch kind whose word it is. -/
theorem BranchKind.ofWord?_eq_some_iff {w : String} {kind : BranchKind} :
    BranchKind.ofWord? w = some kind ↔ w = kind.word := by
  constructor
  · intro h
    unfold BranchKind.ofWord? at h
    split at h
    · next hw =>
      cases h
      exact hw
    · split at h
      · next hw =>
        cases h
        exact hw
      · cases h
  · rintro rfl
    exact BranchKind.ofWord?_word kind

/-- A word means the state whose word it is. -/
theorem TaskState.ofWord?_eq_some_iff {w : String} {state : TaskState} :
    TaskState.ofWord? w = some state ↔ w = state.word := by
  constructor
  · intro h
    unfold TaskState.ofWord? at h
    split at h
    · next hw =>
      cases h
      exact hw
    · split at h
      · next hw =>
        cases h
        exact hw
      · cases h
  · rintro rfl
    exact TaskState.ofWord?_word state

/-- No two states have one word. -/
theorem TaskState.word_inj {a b : TaskState} : a.word = b.word ↔ a = b := by
  rw [← ofWord?_eq_some_iff, ofWord?_word, Option.some.injEq]

namespace Node

/-! What the members of an object tell. -/

/-- Members are taken for an item exactly when their kind says so. -/
theorem shapeOf_eq_item_iff {members : Named Json} :
    shapeOf members = .item ↔ Named.find? Path.reserved members = some (.string "item") := by
  unfold shapeOf
  cases hfound : Named.find? Path.reserved members with
  | none => simp
  | some v =>
    cases v with
    | string w =>
      by_cases hitem : w = "item"
      · simp [hitem]
      · cases hkind : BranchKind.ofWord? w with
        | none => simp [hitem, hkind]
        | some kind => simp [hitem, hkind]
    | _ => simp

/-- Members are taken for a branch exactly when their kind is its word. -/
theorem shapeOf_eq_branch_iff {members : Named Json} {kind : BranchKind} :
    shapeOf members = .branch kind ↔
      Named.find? Path.reserved members = some (.string kind.word) := by
  have hother : kind.word ≠ "item" := by cases kind <;> decide
  unfold shapeOf
  cases hfound : Named.find? Path.reserved members with
  | none => simp
  | some v =>
    cases v with
    | string w =>
      by_cases hitem : w = "item"
      · simp [hitem, hother.symm]
      · have hword := @BranchKind.ofWord?_eq_some_iff w kind
        cases hkind : BranchKind.ofWord? w with
        | none => simpa [hitem, hkind] using hword
        | some other => simpa [hitem, hkind] using hword
    | _ => simp

/-- A value means a state exactly when it is that state's word. -/
theorem stateOfJson?_eq_some_iff {v : Json} {state : TaskState} :
    stateOfJson? v = some state ↔ v = .string state.word := by
  cases v with
  | string w => simpa [stateOfJson?] using TaskState.ofWord?_eq_some_iff
  | _ => simp [stateOfJson?]

/-- A field of an item is what the member of its name holds. -/
theorem itemField_eq_ok_iff {name : String} {members : Named Json} {v : Json} :
    itemField name members = .ok v ↔ Named.find? name members = some v := by
  unfold itemField
  cases Named.find? name members with
  | none => simp
  | some w => simp

/-- The fields of an item are all that is read of its object. -/
theorem itemOfMembers_eq_ok_iff {members : Named Json} {item : Item} :
    itemOfMembers members = .ok item ↔
      Named.find? "title" members = some (.string item.title) ∧
      Named.find? "description" members = some (.string item.description) ∧
      Named.find? "state" members = some (.string item.state.word) := by
  constructor
  · intro h
    unfold itemOfMembers at h
    split at h
    · cases h
    · next title htitle =>
      split at h
      · cases h
      · next description hdescription =>
        split at h
        · cases h
        · next state hstate =>
          split at h
          · cases h
          · next s hs =>
            split at h
            · cases h
              exact ⟨itemField_eq_ok_iff.1 htitle, itemField_eq_ok_iff.1 hdescription,
                stateOfJson?_eq_some_iff.1 hs ▸ itemField_eq_ok_iff.1 hstate⟩
            · cases h
  · rintro ⟨htitle, hdescription, hstate⟩
    have hword : stateOfJson? (.string item.state.word) = some item.state :=
      TaskState.ofWord?_word item.state
    simp only [itemOfMembers, itemField, htitle, hdescription, hstate, hword]

/-- An item that cannot be read is a fault of parsing. -/
theorem kind_of_itemOfMembers {members : Named Json} {fault : Fault}
    (h : itemOfMembers members = .error fault) : fault.kind = .parse := by
  have hfield : ∀ {name fault}, itemField name members = .error fault → fault.kind = .parse := by
    intro name fault hfield
    unfold itemField at hfield
    split at hfield
    · cases hfield
      rfl
    · cases hfield
  unfold itemOfMembers at h
  split at h
  · next htitle =>
    cases h
    exact hfield htitle
  · split at h
    · next hdescription =>
      cases h
      exact hfield hdescription
    · split at h
      · next hstate =>
        cases h
        exact hfield hstate
      · split at h
        · cases h
          rfl
        · split at h
          · cases h
          · cases h
            rfl

/-! Reading. -/

/-- Children are read exactly if each member but the one that tells the kind is. -/
theorem exists_childrenOfJson_iff {n : Nat} {members : List (String × Json)} :
    (∃ children, childrenOfJson n members = .ok children) ↔
      ∀ member ∈ members, member.1 ≠ Path.reserved → ∃ node, ofJsonAt n member.2 = .ok node := by
  induction members with
  | nil => exact iff_of_true ⟨[], rfl⟩ fun _ hmem => by cases hmem
  | cons first rest ih =>
    obtain ⟨name, v⟩ := first
    rw [List.forall_mem_cons, ← ih, childrenOfJson]
    by_cases hname : name = Path.reserved
    · simp [hname]
    · cases ofJsonAt n v with
      | error fault => simp [hname]
      | ok node =>
        cases childrenOfJson n rest with
        | error fault => simp [hname]
        | ok children => simp [hname]

/-- What keeps children from being read keeps one of them from it. -/
theorem refused_of_childrenOfJson {n : Nat} {members : List (String × Json)} {fault : Fault}
    (h : childrenOfJson n members = .error fault) :
    ∃ member ∈ members, ofJsonAt n member.2 = .error fault := by
  induction members with
  | nil => cases h
  | cons first rest ih =>
    have hlater : childrenOfJson n rest = .error fault →
        ∃ member ∈ first :: rest, ofJsonAt n member.2 = .error fault := by
      intro hrest
      obtain ⟨member, hmem, hread⟩ := ih hrest
      exact ⟨member, List.mem_cons_of_mem _ hmem, hread⟩
    obtain ⟨name, v⟩ := first
    unfold childrenOfJson at h
    split at h
    · exact hlater h
    · split at h
      · next hread =>
        cases h
        exact ⟨(name, v), List.mem_cons_self .., hread⟩
      · split at h
        · next hrest =>
          cases h
          exact hlater hrest
        · cases h

/-- What is read is the item or the branch that an object describes. -/
theorem ofJsonAt_succ_eq_ok_iff {n : Nat} {v : Json} {node : Node} :
    ofJsonAt (n + 1) v = .ok node ↔ ∃ members, v = .object members ∧
      ((∃ item, Named.find? Path.reserved members = some (.string "item") ∧
          itemOfMembers members = .ok item ∧ node = .leaf item) ∨
        ∃ kind children, Named.find? Path.reserved members = some (.string kind.word) ∧
          childrenOfJson n members = .ok children ∧ node = .branch kind children) := by
  constructor
  · intro h
    cases v with
    | object members =>
      rw [ofJsonAt] at h
      refine ⟨members, rfl, ?_⟩
      split at h
      · cases h
      · next hshape =>
        split at h
        · cases h
        · next item hitem =>
          cases h
          exact .inl ⟨item, shapeOf_eq_item_iff.1 hshape, hitem, rfl⟩
      · next kind hshape =>
        split at h
        · cases h
        · next children hchildren =>
          cases h
          exact .inr ⟨kind, children, shapeOf_eq_branch_iff.1 hshape, hchildren, rfl⟩
    | _ => cases h
  · rintro ⟨members, rfl, ⟨item, hkind, hitem, rfl⟩ | ⟨kind, children, hkind, hchildren, rfl⟩⟩
    · simp only [ofJsonAt, shapeOf_eq_item_iff.2 hkind, hitem]
    · simp only [ofJsonAt, shapeOf_eq_branch_iff.2 hkind, hchildren]

/-- A value that is not read cannot be parsed, and there is no other reason. -/
theorem kind_of_ofJsonAt {n : Nat} {v : Json} {fault : Fault} (h : ofJsonAt n v = .error fault) :
    fault.kind = .parse := by
  induction n generalizing v fault with
  | zero =>
    rw [ofJsonAt] at h
    cases h
    rfl
  | succ n ih =>
    cases v with
    | object members =>
      rw [ofJsonAt] at h
      split at h
      · cases h
        rfl
      · split at h
        · next hitem =>
          cases h
          exact kind_of_itemOfMembers hitem
        · cases h
      · split at h
        · next hchildren =>
          cases h
          obtain ⟨member, -, hread⟩ := refused_of_childrenOfJson hchildren
          exact ih hread
        · cases h
    | _ =>
      cases h
      rfl

/-- **Values that are read.**  With as many levels left as the value has, it is read exactly if it
describes a node. -/
theorem exists_ofJsonAt_iff {n : Nat} {v : Json} (hlevels : v.levels ≤ n) :
    (∃ node, ofJsonAt n v = .ok node) ↔ v.IsNode := by
  induction n generalizing v with
  | zero =>
    refine iff_of_false (fun hread => ?_) fun hnode => ?_
    · obtain ⟨node, hread⟩ := hread
      rw [ofJsonAt] at hread
      cases hread
    · cases hnode with
      | item => rw [Json.levels] at hlevels; omega
      | branch => rw [Json.levels] at hlevels; omega
  | succ n ih =>
    have hbelow : ∀ members, v = .object members → ∀ member ∈ members,
        ((∃ node, ofJsonAt n member.2 = .ok node) ↔ member.2.IsNode) := by
      rintro members rfl member hmem
      have hmember := Json.levels_le_levelsBelow hmem
      rw [Json.levels] at hlevels
      exact ih (by omega)
    constructor
    · rintro ⟨node, hread⟩
      obtain ⟨members, rfl, hnode⟩ := ofJsonAt_succ_eq_ok_iff.1 hread
      rcases hnode with ⟨item, hkind, hitem, rfl⟩ | ⟨kind, children, hkind, hchildren, rfl⟩
      · obtain ⟨htitle, hdescription, hstate⟩ := itemOfMembers_eq_ok_iff.1 hitem
        exact .item hkind htitle hdescription hstate
      · refine .branch hkind fun member hmem hname => ?_
        exact (hbelow members rfl member hmem).1
          (exists_childrenOfJson_iff.1 ⟨children, hchildren⟩ member hmem hname)
    · intro hnode
      cases hnode with
      | @item members title description state hkind htitle hdescription hstate =>
        have hitem : itemOfMembers members = .ok ⟨title, description, state⟩ :=
          itemOfMembers_eq_ok_iff.2 ⟨htitle, hdescription, hstate⟩
        exact ⟨_, ofJsonAt_succ_eq_ok_iff.2 ⟨members, rfl, .inl ⟨_, hkind, hitem, rfl⟩⟩⟩
      | @branch members kind hkind below =>
        obtain ⟨children, hchildren⟩ := (@exists_childrenOfJson_iff n members).2
          fun member hmem hname => (hbelow members rfl member hmem).2 (below member hmem hname)
        exact ⟨_, ofJsonAt_succ_eq_ok_iff.2
          ⟨members, rfl, .inr ⟨kind, children, hkind, hchildren, rfl⟩⟩⟩

/-- A node that was read is less deep than there were levels. -/
theorem depth_lt_of_ofJsonAt {n : Nat} {v : Json} {node : Node} (h : ofJsonAt n v = .ok node) :
    node.depth < n := by
  induction n generalizing v node with
  | zero =>
    rw [ofJsonAt] at h
    cases h
  | succ n ih =>
    obtain ⟨members, -, hnode⟩ := ofJsonAt_succ_eq_ok_iff.1 h
    rcases hnode with ⟨item, -, -, rfl⟩ | ⟨kind, children, -, hchildren, rfl⟩
    · exact Nat.succ_pos n
    · rw [depth, Nat.lt_succ_iff]
      refine depthBelow_le_iff.2 fun entry hentry => ?_
      obtain ⟨member, -, hread⟩ := mem_childrenOfJson hchildren hentry
      exact ih hread

/-! Writing what was read. -/

/-- If each member is written as its normal form, the children are written as those of all members
but the one that tells the kind. -/
theorem childrenJson_of_childrenOfJson {n : Nat} {members : List (String × Json)}
    {children : Named Node} (h : childrenOfJson n members = .ok children)
    (hwrite : ∀ member ∈ members, ∀ node, ofJsonAt n member.2 = .ok node →
      node.toJson = member.2.normal) :
    childrenJson children = Named.erase Path.reserved (Json.normalBelow members) := by
  induction members generalizing children with
  | nil =>
    cases h
    rfl
  | cons first rest ih =>
    obtain ⟨name, v⟩ := first
    have hrest : ∀ {children}, childrenOfJson n rest = .ok children →
        childrenJson children = Named.erase Path.reserved (Json.normalBelow rest) :=
      fun h => ih h fun member hmem => hwrite member (List.mem_cons_of_mem _ hmem)
    rw [Json.normalBelow]
    unfold childrenOfJson at h
    split at h
    · next hname =>
      rw [hrest h]
      simp [Named.erase, hname]
    · next hname =>
      split at h
      · cases h
      · next child hchild =>
        split at h
        · cases h
        · next children hchildren =>
          cases h
          rw [childrenJson, hrest hchildren, hwrite (name, v) (List.mem_cons_self ..) child hchild]
          simp [Named.erase, hname]

/-- **What was read is written in normal form.** -/
theorem toJson_of_ofJsonAt {n : Nat} {v : Json} {node : Node} (hv : v.IsMapped)
    (h : ofJsonAt n v = .ok node) : node.toJson = v.normal := by
  induction n generalizing v node with
  | zero =>
    rw [ofJsonAt] at h
    cases h
  | succ n ih =>
    obtain ⟨members, rfl, hnode⟩ := ofJsonAt_succ_eq_ok_iff.1 h
    obtain ⟨hdistinct, hbelow⟩ := hv.members
    rcases hnode with ⟨item, hkind, hitem, rfl⟩ | ⟨kind, children, hkind, hchildren, rfl⟩
    · obtain ⟨htitle, hdescription, hstate⟩ := itemOfMembers_eq_ok_iff.1 hitem
      have htells : Json.tellsItem members = true := by simp [Json.tellsItem, hkind, Json.string?]
      rw [toJson, Json.normal, if_pos htells]
      simp only [itemJson, Json.itemFields, List.filterMap_cons, List.filterMap_nil, hkind, htitle,
        hdescription, hstate, Option.map_some]
      rfl
    · have htells : ¬ Json.tellsItem members = true := by
        cases kind <;> simp [Json.tellsItem, hkind, Json.string?, BranchKind.word]
      have hwritten := childrenJson_of_childrenOfJson hchildren fun member hmem node hread =>
        ih (hbelow member hmem) hread
      have hnormal : Named.find? Path.reserved (Json.normalBelow members) =
          some (.string kind.word) := by
        rw [Json.normalBelow_eq, Named.find?_mapThings, hkind]
        rfl
      have hmapped : Named.IsDistinct (Json.normalBelow members) := by
        rw [Json.normalBelow_eq]
        exact hdistinct.mapThings _
      rw [toJson, Json.normal, if_neg htells, Json.kindFirst_of_find? hmapped hnormal, hwritten]
      rfl

/-- **Reading a node normalises its value.**  Of the values that have no more levels than are
read, those are read that describe a node, and the others cannot be parsed.  A node that was read
has distinct names below each branch, and the reserved one is none of them.  It is written as the
normal form of the value, and this is read as a node that looks the same. -/
theorem reading_normalises {v : Json} (hv : v.IsMapped) (hlevels : v.levels ≤ nodeDepth) :
    ((∃ node, ofJson v = .ok node) ↔ v.IsNode) ∧
    (∀ fault, ofJson v = .error fault → fault.kind = .parse) ∧
    ∀ node, ofJson v = .ok node → node.WellNamed ∧ node.toJson = v.normal ∧
      ∃ again, ofJson node.toJson = .ok again ∧ Alike again node := by
  refine ⟨exists_ofJsonAt_iff hlevels, fun fault => kind_of_ofJsonAt, fun node hread => ?_⟩
  have hnamed : node.WellNamed := wellNamed_ofJsonAt hv hread
  exact ⟨hnamed, toJson_of_ofJsonAt hv hread, node.canonical,
    ofJsonAt_toJson hnamed (depth_lt_of_ofJsonAt hread), canonical_alike hnamed⟩

/-- A section with its members in no order, and an item in it that has more than its fields. -/
def untidy : Json :=
  .object
    [("b", .object [("type", .string "user")]), ("type", .string "section"),
     ("a", .object
        [("state", .string "done"), ("note", .array [.null]), ("title", .string "\x00"),
         ("type", .string "item"), ("description", .string "")])]

/-- The same in normal form. -/
def tidied : Json :=
  .object
    [("type", .string "section"),
     ("a", .object
        [("type", .string "item"), ("title", .string "\x00"), ("description", .string ""),
         ("state", .string "done")]),
     ("b", .object [("type", .string "user")])]

/-- A snapshot with its members out of order and one too many comes back tidy. -/
theorem reading_normalises_untidy :
    untidy.IsMapped ∧ untidy.levels ≤ nodeDepth ∧ ∃ node, ofJson untidy = .ok node ∧
      node.WellNamed ∧ node.toJson = tidied ∧
      ∃ again, ofJson node.toJson = .ok again ∧ Alike again node := by
  have hflat : ∀ {members : Named Json}, Named.IsDistinct members →
      (∀ member ∈ members, ∀ inner, member.2 ≠ .object inner) → (Json.object members).IsMapped :=
    fun hd hflat => .object hd fun member hmem => .other (hflat member hmem)
  have hmapped : untidy.IsMapped := by
    refine .object (by decide) ?_
    simp only [List.forall_mem_cons]
    exact ⟨hflat (by decide) (by simp), .other (by simp), hflat (by decide) (by simp), by simp⟩
  have hnode : untidy.IsNode := by
    refine @Json.IsNode.branch _ .group rfl ?_
    simp only [List.forall_mem_cons]
    refine ⟨fun _ => @Json.IsNode.branch _ .user rfl (by simp [Path.reserved]),
      fun hname => (hname rfl).elim,
      fun _ => @Json.IsNode.item _ "\x00" "" .done rfl rfl rfl rfl, by simp⟩
  have hlevels : untidy.levels ≤ nodeDepth := by decide
  have hsorted (u v : Json) : Named.sorted [("b", u), ("a", v)] = [("a", v), ("b", u)] := by
    refine (Named.sorted_eq_of_perm ?_ (List.Perm.swap ..)).trans ?_
    · simp [Named.IsDistinct, Named.names]
    · exact List.mergeSort_of_pairwise (by simp)
  have hempty : Named.sorted ([] : Named Json) = [] := List.mergeSort_nil
  have hnormal : untidy.normal = tidied := by
    simp [untidy, tidied, Json.normal, Json.normalBelow, Json.tellsItem, Json.kindFirst,
      Json.itemFields, Named.find?, Named.erase, Json.string?, Path.reserved, hsorted,
      hempty]
  obtain ⟨hread, -, hnodes⟩ := reading_normalises hmapped hlevels
  obtain ⟨node, hok⟩ := hread.2 hnode
  obtain ⟨hnamed, hwritten, hagain⟩ := hnodes node hok
  exact ⟨hmapped, hlevels, node, hok, hnamed, hwritten.trans hnormal, hagain⟩

end Node

end TaskTree
