import TaskTree.Proofs.Graph.Snapshot

/-!
# Graphs that are read

Of members with one name the reader keeps the last, so the names in each object
of a value that was read are distinct (`isMapped_readValue`).  Children come
from the members of an object but for the reserved one.  So a graph that was
read from a text is well named, whatever the text (`isWellNamed_ofChars`).
-/

namespace TaskTree

namespace Json

/-- The names of an object are distinct, and so are those of the objects that are its
members. -/
inductive IsMapped : Json → Prop
  | other {v : Json} (h : ∀ members, v ≠ .object members) : IsMapped v
  | object {members : List (String × Json)} (distinct : Named.IsDistinct members)
      (below : ∀ member ∈ members, IsMapped member.2) : IsMapped (.object members)

/-- The members of a mapped object have different names and are mapped. -/
theorem IsMapped.members {members : List (String × Json)} (h : IsMapped (.object members)) :
    Named.IsDistinct members ∧ ∀ member ∈ members, IsMapped member.2 := by
  cases h with
  | other hother => exact (hother members rfl).elim
  | object distinct below => exact ⟨distinct, below⟩

/-- The values of members are read by the reader of values. -/
theorem mem_readMembers {value : List Char → Read Json} {fuel : Nat} {cs rest : List Char}
    {members : List (String × Json)} (h : readMembers value fuel cs = .ok (members, rest))
    {member : String × Json} (hmem : member ∈ members) :
    ∃ text rest', value text = .ok (member.2, rest') := by
  induction fuel generalizing cs members rest with
  | zero => cases h
  | succ fuel ih =>
    unfold readMembers at h
    split at h
    · split at h
      · cases h
      · split at h
        · split at h
          · cases h
          · next hvalue =>
            split at h
            · cases h
              rw [List.mem_singleton.1 hmem]
              exact ⟨_, _, hvalue⟩
            · split at h
              · cases h
              · next hmembers =>
                cases h
                rcases List.mem_cons.1 hmem with rfl | hmem
                · exact ⟨_, _, hvalue⟩
                · exact ih hmembers hmem
            · cases h
        · cases h
    · cases h

/-- No number is an object. -/
theorem numberOf_ne_object {negative : Bool} {whole : List Char} {fraction : Option (List Char)}
    {exponent : Option Int} {v : Json} (h : numberOf negative whole fraction exponent = .ok v)
    (members : List (String × Json)) : v ≠ .object members := by
  unfold numberOf at h
  split at h
  · split at h
    · cases h
    · cases h
      exact Json.noConfusion
  · cases h
    exact Json.noConfusion

/-- What is read as a number is no object. -/
theorem readNumber_ne_object {negative : Bool} {start cs rest : List Char} {v : Json}
    (h : readNumber negative start cs = .ok (v, rest)) (members : List (String × Json)) :
    v ≠ .object members := by
  unfold readNumber at h
  split at h
  · cases h
  · simp only at h
    repeat' split at h
    all_goals cases h
    all_goals exact numberOf_ne_object (by assumption) members

/-- A number, or a word that stands for a value, is no object. -/
theorem readPlain_ne_object {cs rest : List Char} {v : Json} (h : readPlain cs = .ok (v, rest))
    (members : List (String × Json)) : v ≠ .object members := by
  unfold readPlain at h
  split at h
  · next hword =>
    cases h
    obtain ⟨entry, hentry, hafter⟩ := List.exists_of_findSome?_eq_some hword
    obtain ⟨after, -, heq⟩ := Option.map_eq_some_iff.1 hafter
    cases heq
    have hwords : ∀ entry ∈ words, ∀ members, entry.2 ≠ .object members := by
      simp [words]
    exact hwords entry hentry members
  · split at h
    · exact readNumber_ne_object h members
    · exact readNumber_ne_object h members

/-- **Values that are read are mappings.** -/
theorem isMapped_readValue {n : Nat} {cs rest : List Char} {v : Json}
    (h : readValue n cs = .ok (v, rest)) : IsMapped v := by
  induction n generalizing cs v rest with
  | zero =>
    unfold readValue at h
    split at h
    · split at h
      · cases h
      · cases h
        exact .other fun _ => Json.noConfusion
    · cases h
    · cases h
    · next heq => cases heq
    · next heq => cases heq
    · exact .other (readPlain_ne_object h)
  | succ n ih =>
    unfold readValue at h
    split at h
    · split at h
      · cases h
      · cases h
        exact .other fun _ => Json.noConfusion
    · next heq => cases heq
    · next heq => cases heq
    · next heq =>
      cases heq
      split at h
      · cases h
        exact .other fun _ => Json.noConfusion
      · split at h
        · cases h
        · cases h
          exact .other fun _ => Json.noConfusion
    · next heq =>
      cases heq
      split at h
      · cases h
        exact .object Named.isDistinct_nil fun _ hmem => by cases hmem
      · split at h
        · cases h
        · next hmembers =>
          cases h
          refine .object (Named.isDistinct_ofPairs _) fun member hmem => ?_
          obtain ⟨text, rest', hvalue⟩ :=
            mem_readMembers hmembers (Named.mem_of_mem_ofPairs hmem)
          exact ih hvalue
    · exact .other (readPlain_ne_object h)

/-- What is read from a text is mapped. -/
theorem isMapped_read {n : Nat} {cs : List Char} {v : Json} (h : read n cs = .ok v) :
    IsMapped v := by
  have hall : ∀ {cs : List Char}, readAll n cs = .ok v → IsMapped v := by
    intro cs hread
    unfold readAll at hread
    split at hread
    · cases hread
    · next hvalue =>
      split at hread
      · cases hread
        exact isMapped_readValue hvalue
      · cases hread
  unfold read at h
  split at h
  · cases h
  · exact hall h

end Json

namespace Node

/-- The children that members describe are under names of the members, and not under the
reserved one. -/
theorem names_childrenOfJson {n : Nat} {members : List (String × Json)} {children : Named Node}
    (h : childrenOfJson n members = .ok children) :
    List.Sublist (Named.names children) (Named.names members) ∧
      Path.reserved ∉ Named.names children := by
  induction members generalizing children with
  | nil =>
    cases h
    exact ⟨List.Sublist.refl _, List.not_mem_nil⟩
  | cons member rest ih =>
    obtain ⟨name, v⟩ := member
    unfold childrenOfJson at h
    split at h
    · obtain ⟨hsub, hreserved⟩ := ih h
      exact ⟨hsub.cons _, hreserved⟩
    · next hname =>
      split at h
      · cases h
      · split at h
        · cases h
        · next hrest =>
          cases h
          obtain ⟨hsub, hreserved⟩ := ih hrest
          refine ⟨hsub.cons_cons _, ?_⟩
          intro hmem
          rcases List.mem_cons.1 hmem with heq | hmem
          · exact hname heq.symm
          · exact hreserved hmem

/-- Each of the children that members describe is read from one of the members. -/
theorem mem_childrenOfJson {n : Nat} {members : List (String × Json)} {children : Named Node}
    (h : childrenOfJson n members = .ok children) {entry : String × Node}
    (hentry : entry ∈ children) :
    ∃ member ∈ members, ofJsonAt n member.2 = .ok entry.2 := by
  induction members generalizing children with
  | nil =>
    cases h
    cases hentry
  | cons member rest ih =>
    obtain ⟨name, v⟩ := member
    unfold childrenOfJson at h
    split at h
    · obtain ⟨member, hmem, hread⟩ := ih h hentry
      exact ⟨member, List.mem_cons_of_mem _ hmem, hread⟩
    · split at h
      · cases h
      · next hchild =>
        split at h
        · cases h
        · next hrest =>
          cases h
          rcases List.mem_cons.1 hentry with rfl | hentry
          · exact ⟨(name, v), List.mem_cons_self .., hchild⟩
          · obtain ⟨member, hmem, hread⟩ := ih hrest hentry
            exact ⟨member, List.mem_cons_of_mem _ hmem, hread⟩

/-- A node that is read from a mapping is well named. -/
theorem wellNamed_ofJsonAt {n : Nat} {v : Json} {node : Node} (hv : v.IsMapped)
    (h : ofJsonAt n v = .ok node) : WellNamed node := by
  induction n generalizing v node with
  | zero =>
    rw [ofJsonAt] at h
    cases h
  | succ n ih =>
    unfold ofJsonAt at h
    split at h
    · next heq => cases heq
    · next members heq =>
      cases heq
      obtain ⟨hdistinct, hbelow⟩ := hv.members
      split at h
      · cases h
      · split at h
        · cases h
        · cases h
          exact .leaf _
      · split at h
        · cases h
        · next hchildren =>
          cases h
          obtain ⟨hsub, hreserved⟩ := names_childrenOfJson hchildren
          refine .branch (hsub.nodup hdistinct) hreserved fun entry hentry => ?_
          obtain ⟨member, hmem, hread⟩ := mem_childrenOfJson hchildren hentry
          exact ih (hbelow member hmem) hread
    · cases h

end Node

namespace Graph

/-- Roots are read from all members, one from each. -/
theorem names_rootsOfJson {members : List (String × Json)} {graph : Graph}
    (h : rootsOfJson members = .ok graph) : Named.names graph = Named.names members := by
  induction members generalizing graph with
  | nil =>
    cases h
    rfl
  | cons member rest ih =>
    obtain ⟨name, v⟩ := member
    unfold rootsOfJson at h
    split at h
    · cases h
    · split at h
      · cases h
      · next hrest =>
        cases h
        exact congrArg (name :: ·) (ih hrest)

/-- Each root that is read comes from a member. -/
theorem mem_rootsOfJson {members : List (String × Json)} {graph : Graph}
    (h : rootsOfJson members = .ok graph) {entry : String × Node} (hentry : entry ∈ graph) :
    ∃ member ∈ members, Node.ofJson member.2 = .ok entry.2 := by
  induction members generalizing graph with
  | nil =>
    cases h
    cases hentry
  | cons member rest ih =>
    obtain ⟨name, v⟩ := member
    unfold rootsOfJson at h
    split at h
    · cases h
    · next hnode =>
      split at h
      · cases h
      · next hrest =>
        cases h
        rcases List.mem_cons.1 hentry with rfl | hentry
        · exact ⟨(name, v), List.mem_cons_self .., hnode⟩
        · obtain ⟨member, hmem, hread⟩ := ih hrest hentry
          exact ⟨member, List.mem_cons_of_mem _ hmem, hread⟩

/-- **Graphs that are read are well named.** -/
theorem isWellNamed_ofChars {text : List Char} {graph : Graph} (h : ofChars text = .ok graph) :
    graph.IsWellNamed := by
  unfold ofChars at h
  split at h
  · next v hread =>
    have hmapped := Json.isMapped_read hread
    cases v with
    | object members =>
      cases hroots : rootsOfJson members with
      | error fault => simp [ofJson, hroots, liftFault] at h
      | ok roots =>
        simp only [ofJson, hroots, liftFault, Except.ok.injEq] at h
        subst h
        obtain ⟨hdistinct, hbelow⟩ := hmapped.members
        refine ⟨?_, fun entry hentry => ?_⟩
        · rw [Named.IsDistinct, names_rootsOfJson hroots]
          exact hdistinct
        · obtain ⟨member, hmem, hnode⟩ := mem_rootsOfJson hroots hentry
          exact Node.wellNamed_ofJsonAt (hbelow member hmem) hnode
    | _ => cases h
  · cases h
  · cases h
  · cases h

end Graph

end TaskTree
