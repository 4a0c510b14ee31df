import TaskTree.Proofs.Json.Layout

/-!
# Values that are nested too deep

A reader that has levels enough takes a written value up (`read_pretty`), and one that has too
few refuses it as too deep and for no other reason (`read_pretty_of_deep`).  It meets the first
brace too many before it meets any other fault, since all that stands before that brace can be
read.
-/

namespace TaskTree.Json

variable {value : List Char → Read Json} {escape : Char → List Char} {refusal : Refusal}

/-- A member with a value that is refused is the end of its object. -/
theorem readMembers_of_first (hescape : IsReadable escape) (name : String)
    {text rest : List Char} (h : value (skip (' ' :: text ++ rest)) = .error refusal)
    (fuel : Nat) :
    readMembers value (fuel + 1) (quoteWith escape name ++ ':' :: ' ' :: text ++ rest) =
      .error refusal := by
  simp only [List.cons_append] at h
  simp only [quoteWith, List.cons_append, List.append_assoc, List.nil_append, readMembers]
  rw [readString_quoteWith hescape]
  simp only [skip_cons (c := ':') rfl, h]

/-- If some values of the members are refused, and all others are read, then so are the members. -/
theorem readMembers_refused (hescape : IsReadable escape) {gap : List Char}
    (hgap : ∀ c ∈ gap, isSpace c = true) {write : Json → List Char}
    {members : List (String × Json)} {name : String} {v : Json}
    (hvalue : ∀ member ∈ (name, v) :: members,
      (∀ rest, value (skip (' ' :: write member.2 ++ rest)) = .ok (member.2, rest)) ∨
        ∀ rest, value (skip (' ' :: write member.2 ++ rest)) = .error refusal)
    (hrefused : ∃ member ∈ (name, v) :: members,
      ∀ rest, value (skip (' ' :: write member.2 ++ rest)) = .error refusal)
    {fuel : Nat} (hfuel : members.length < fuel) (rest : List Char) :
    readMembers value fuel (quoteWith escape name ++ ':' :: ' ' :: write v ++
      membersText escape gap write members ++ rest) = .error refusal := by
  induction members generalizing name v fuel with
  | nil =>
    obtain ⟨fuel, rfl⟩ : ∃ f, fuel = f + 1 := ⟨fuel - 1, by simp at hfuel; omega⟩
    obtain ⟨member, hmem, hfirst⟩ := hrefused
    obtain rfl := List.mem_singleton.1 hmem
    rw [membersText, List.flatMap_nil, List.append_nil]
    exact readMembers_of_first hescape name (hfirst rest) fuel
  | cons next members ih =>
    obtain ⟨fuel, rfl⟩ : ∃ f, fuel = f + 1 := ⟨fuel - 1, by simp at hfuel; omega⟩
    rcases hvalue (name, v) (List.mem_cons_self ..) with hfirst | hfirst
    · have hlater : ∃ member ∈ next :: members,
          ∀ rest, value (skip (' ' :: write member.2 ++ rest)) = .error refusal := by
        obtain ⟨member, hmem, hmember⟩ := hrefused
        rcases List.mem_cons.1 hmem with rfl | hmem
        · cases (hfirst []).symm.trans (hmember [])
        · exact ⟨member, hmem, hmember⟩
      have hrest := @ih next.1 next.2 (fun member hm => hvalue member (List.mem_cons_of_mem _ hm))
        hlater fuel (by simpa using hfuel)
      have hv := hfirst (membersText escape gap write (next :: members) ++ rest)
      simp only [membersText, List.flatMap_cons, quoteWith, List.cons_append, List.append_assoc,
        List.nil_append] at hv hrest ⊢
      simp only [readMembers]
      rw [readString_quoteWith hescape]
      simp only [skip_cons (c := ':') rfl, hv, skip_cons (c := ',') rfl,
        skip_append gap hgap (c := '"') rfl, hrest]
    · rw [List.append_assoc]
      exact readMembers_of_first hescape name (hfirst _) fuel

/-- In an object that is nested too deep there is a value that is. -/
theorem exists_deep_member {n : Nat} {members : List (String × Json)}
    (distinct : Named.IsDistinct members) (h : ¬ IsTextual (n + 1) (.object members)) :
    ∃ member ∈ members, ¬ IsTextual n member.2 := by
  refine Classical.byContradiction fun hnone => h (.object distinct fun member hmem => ?_)
  exact Classical.byContradiction fun hmember => hnone ⟨member, hmem, hmember⟩

/-- A value is refused as too deep, if the reader has too few levels left for it. -/
theorem readValue_of_deep {m n : Nat} {v : Json} (h : IsTextual m v) (hdeep : ¬ IsTextual n v)
    (level : Nat) (rest : List Char) :
    readValue n (prettyAt level v ++ rest) = .error (.deep .object) := by
  induction h generalizing n level rest with
  | string m s => exact absurd (.string n s) hdeep
  | @object m members distinct below ih =>
    cases n with
    | zero =>
      cases members with
      | nil => rw [prettyAt_object_nil, List.cons_append, readValue]
      | cons first members => rw [prettyAt_object]; simp only [List.cons_append, readValue]
    | succ n =>
      obtain ⟨deep, hmem, hdeep'⟩ := exists_deep_member distinct hdeep
      have hrefused : ∀ member ∈ members, ¬ IsTextual n member.2 → ∀ rest,
          readValue n (skip (' ' :: prettyAt (level + 1) member.2 ++ rest)) =
            .error (.deep .object) := by
        intro member hmem hmember rest
        rw [skip_prettyAt (below member hmem)]
        exact ih member hmem hmember (level + 1) rest
      have hvalue : ∀ member ∈ members,
          (∀ rest, readValue n (skip (' ' :: prettyAt (level + 1) member.2 ++ rest)) =
            .ok (member.2, rest)) ∨
          ∀ rest, readValue n (skip (' ' :: prettyAt (level + 1) member.2 ++ rest)) =
            .error (.deep .object) := by
        intro member hmem
        by_cases hmember : IsTextual n member.2
        · refine .inl fun rest => ?_
          rw [skip_prettyAt hmember]
          exact readValue_prettyAt hmember (level + 1) rest
        · exact .inr (hrefused member hmem hmember)
      cases members with
      | nil => cases hmem
      | cons first members =>
        obtain ⟨name, v⟩ := first
        obtain ⟨fuel, hfuel, hread⟩ := readValue_members n (isSpace_lineBreak (level + 1))
          escapeRaw (lineBreak (level + 1)) (prettyAt (level + 1)) name v members
          (lineBreak level ++ '\x7d' :: rest)
        have hmembers := readMembers_refused isReadable_escapeRaw (isSpace_lineBreak (level + 1))
          hvalue ⟨deep, hmem, hrefused deep hmem hdeep'⟩ hfuel (lineBreak level ++ '\x7d' :: rest)
        rw [prettyAt_object, List.append_assoc, List.append_assoc, List.singleton_append, hread,
          hmembers]

/-- **Deep values are refused.**  A value made of strings and objects is refused by a reader that
has too few levels for it. -/
theorem read_pretty_of_deep {m n : Nat} {v : Json} (h : IsTextual m v) (hdeep : ¬ IsTextual n v) :
    read n v.pretty.toList = .error (.deep .object) := by
  have hvalue := readValue_of_deep h hdeep 0 []
  rw [List.append_nil] at hvalue
  rw [pretty, String.toList_ofList, read_of_head (prettyAt_head h 0), hvalue]

end TaskTree.Json
