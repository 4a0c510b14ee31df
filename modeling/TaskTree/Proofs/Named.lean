import TaskTree.Named

/-!
# Rows as mappings

A row whose names are distinct is a mapping, and `find?` is all there is to
know about it: `insert` and `erase` keep the names distinct, a permutation of
such a row is the same mapping, and two such rows that are the same mapping
look the same once they are sorted (`sorted_eq_of_find?_eq`).  The order in
which names came is therefore lost by sorting, and nothing else is.
-/

namespace TaskTree.Named

variable {α β : Type}

/-- The names of a row are distinct, so the row is a mapping. -/
def IsDistinct (row : Named α) : Prop :=
  (names row).Nodup

instance (row : Named α) : Decidable (IsDistinct row) :=
  inferInstanceAs (Decidable (names row).Nodup)

theorem isDistinct_nil : IsDistinct ([] : Named α) :=
  List.nodup_nil

theorem isDistinct_cons {name : String} {a : α} {rest : Named α} :
    IsDistinct ((name, a) :: rest) ↔ name ∉ names rest ∧ IsDistinct rest := by
  simp [IsDistinct, names]

/-- What is found is there. -/
theorem mem_of_find? {name : String} {a : α} {row : Named α}
    (h : find? name row = some a) : (name, a) ∈ row := by
  induction row with
  | nil => simp at h
  | cons entry rest ih =>
    obtain ⟨n, b⟩ := entry
    by_cases hn : n = name
    · subst hn
      simp only [find?, if_true, Option.some.injEq] at h
      simp [h]
    · simp only [find?, if_neg hn] at h
      exact List.mem_cons_of_mem _ (ih h)

/-- Nothing is found under a name exactly if nothing has it. -/
theorem find?_eq_none_iff {name : String} {row : Named α} :
    find? name row = none ↔ name ∉ names row := by
  induction row with
  | nil => simp [names]
  | cons entry rest ih =>
    obtain ⟨n, b⟩ := entry
    by_cases hn : n = name
    · simp [find?, names, hn]
    · simp only [find?, if_neg hn, ih]
      simp [names, Ne.symm hn]

/-- In a row with distinct names every entry is found by its name. -/
theorem find?_of_mem {name : String} {a : α} {row : Named α} (hd : IsDistinct row)
    (h : (name, a) ∈ row) : find? name row = some a := by
  induction row with
  | nil => cases h
  | cons entry rest ih =>
    obtain ⟨n, b⟩ := entry
    obtain ⟨hn, hrest⟩ := isDistinct_cons.1 hd
    rcases List.mem_cons.1 h with heq | hmem
    · cases heq
      simp [find?]
    · have hne : n ≠ name := by
        intro hsame
        subst hsame
        exact hn (List.mem_map.2 ⟨_, hmem, rfl⟩)
      simpa [find?, hne] using ih hrest hmem

/-- Under distinct names just what is there is found. -/
theorem find?_eq_some_iff {name : String} {a : α} {row : Named α} (hd : IsDistinct row) :
    find? name row = some a ↔ (name, a) ∈ row :=
  ⟨mem_of_find?, find?_of_mem hd⟩

/-- Rows in another order have the same names in another order. -/
theorem names_perm {row row' : Named α} (h : row.Perm row') : (names row).Perm (names row') :=
  h.map Prod.fst

/-- Names stay distinct in any order. -/
theorem IsDistinct.perm {row row' : Named α} (hd : IsDistinct row) (h : row.Perm row') :
    IsDistinct row' :=
  (names_perm h).nodup_iff.1 hd

/-- A permutation of a mapping is the same mapping. -/
theorem find?_eq_of_perm {row row' : Named α} (hd : IsDistinct row) (h : row.Perm row')
    (name : String) : find? name row = find? name row' := by
  ext a
  rw [find?_eq_some_iff hd, find?_eq_some_iff (hd.perm h)]
  exact h.mem_iff

/-- What is there after something was put in is that, or it was there before. -/
theorem mem_insert {name : String} {a : α} {row : Named α} {entry : String × α}
    (h : entry ∈ insert name a row) : entry = (name, a) ∨ entry ∈ row := by
  induction row with
  | nil => simpa [insert] using h
  | cons first rest ih =>
    obtain ⟨n, b⟩ := first
    by_cases hn : n = name
    · subst hn
      simp only [insert, if_true, List.mem_cons] at h ⊢
      rcases h with h | h
      · exact .inl h
      · exact .inr (.inr h)
    · simp only [insert, if_neg hn, List.mem_cons] at h ⊢
      rcases h with h | h
      · exact .inr (.inl h)
      · exact (ih h).imp_right .inr

/-- A new name comes last, and a known one keeps its place. -/
theorem names_insert (name : String) (a : α) (row : Named α) :
    names (insert name a row) = if name ∈ names row then names row else names row ++ [name] := by
  induction row with
  | nil => simp [insert, names]
  | cons first rest ih =>
    obtain ⟨n, b⟩ := first
    by_cases hn : n = name
    · simp [insert, names, hn]
    · have ih' : List.map Prod.fst (insert name a rest) = _ := ih
      by_cases hm : name ∈ List.map Prod.fst rest
      · simp only [names] at ih' ⊢
        simp [insert, hn, Ne.symm hn, ih', hm]
      · simp only [names] at ih' ⊢
        simp [insert, hn, Ne.symm hn, ih', hm]

/-- The names after something was put in are its name and those before. -/
theorem mem_names_insert {name other : String} {a : α} {row : Named α} :
    other ∈ names (insert name a row) ↔ other = name ∨ other ∈ names row := by
  rw [names_insert]
  by_cases h : name ∈ names row
  · rw [if_pos h]
    constructor
    · exact .inr
    · intro hcases
      rcases hcases with rfl | h'
      · exact h
      · exact h'
  · rw [if_neg h, List.mem_append, List.mem_singleton]
    exact or_comm

/-- Names stay distinct when something is put in. -/
theorem IsDistinct.insert {row : Named α} (hd : IsDistinct row) (name : String) (a : α) :
    IsDistinct (Named.insert name a row) := by
  unfold IsDistinct
  rw [names_insert]
  by_cases h : name ∈ names row
  · rw [if_pos h]
    exact hd
  · rw [if_neg h]
    exact List.nodup_append.2 ⟨hd, by simp, fun x hx y hy => by
      intro heq
      subst heq
      exact h (List.mem_singleton.1 hy ▸ hx)⟩

/-- What is left was there before. -/
theorem mem_of_mem_erase {name : String} {row : Named α} {entry : String × α}
    (h : entry ∈ erase name row) : entry ∈ row :=
  (List.mem_filter.1 h).1

/-- Names stay distinct when something is taken out. -/
theorem IsDistinct.erase {row : Named α} (hd : IsDistinct row) (name : String) :
    IsDistinct (Named.erase name row) :=
  List.Sublist.nodup (List.filter_sublist.map Prod.fst) hd

/-- Rows that pairs make have distinct names. -/
theorem isDistinct_ofPairs (pairs : List (String × α)) : IsDistinct (ofPairs pairs) := by
  have step : ∀ (pairs : List (String × α)) (row : Named α), IsDistinct row →
      IsDistinct (pairs.foldl (fun row entry => insert entry.1 entry.2 row) row) := by
    intro pairs
    induction pairs with
    | nil => exact fun _ hd => hd
    | cons entry rest ih => exact fun row hd => ih _ (hd.insert entry.1 entry.2)
  exact step pairs [] isDistinct_nil

/-- What is in a row that is made of pairs is one of them. -/
theorem mem_of_mem_ofPairs {pairs : List (String × α)} {entry : String × α}
    (h : entry ∈ ofPairs pairs) : entry ∈ pairs := by
  have step : ∀ (pairs : List (String × α)) (row : Named α),
      entry ∈ pairs.foldl (fun row entry => insert entry.1 entry.2 row) row →
        entry ∈ row ∨ entry ∈ pairs := by
    intro pairs
    induction pairs with
    | nil => exact fun _ h => .inl h
    | cons first rest ih =>
      intro row h
      rcases ih _ h with h | h
      · rcases mem_insert h with rfl | h
        · exact .inr (List.mem_cons_self ..)
        · exact .inl h
      · exact .inr (List.mem_cons_of_mem _ h)
  exact (step pairs [] h).resolve_left (by simp)

/-- What has a new name is put at the end. -/
theorem insert_of_not_mem {name : String} (a : α) {row : Named α} (h : name ∉ names row) :
    insert name a row = row ++ [(name, a)] := by
  induction row with
  | nil => rfl
  | cons first rest ih =>
    obtain ⟨n, b⟩ := first
    simp only [names, List.map_cons, List.mem_cons, not_or] at h
    simp only [insert, if_neg (Ne.symm h.1), List.cons_append]
    rw [ih h.2]

/-- To give a thing the name that it has changes nothing. -/
theorem insert_of_find? {name : String} {a : α} {row : Named α} (h : find? name row = some a) :
    insert name a row = row := by
  induction row with
  | nil => simp at h
  | cons first rest ih =>
    obtain ⟨n, b⟩ := first
    by_cases hn : n = name
    · simp only [find?, if_pos hn, Option.some.injEq] at h
      simp [insert, hn, h]
    · simp only [find?, if_neg hn] at h
      simp [insert, hn, ih h]

/-- Pairs with distinct names are a row as they stand. -/
theorem ofPairs_eq_self {pairs : List (String × α)} (hd : IsDistinct pairs) :
    ofPairs pairs = pairs := by
  have step : ∀ (pairs : List (String × α)) (row : Named α), IsDistinct (row ++ pairs) →
      pairs.foldl (fun row entry => insert entry.1 entry.2 row) row = row ++ pairs := by
    intro pairs
    induction pairs with
    | nil => intro row _; simp
    | cons first rest ih =>
      intro row hd
      obtain ⟨n, b⟩ := first
      have hnew : n ∉ names row := by
        unfold IsDistinct names at hd
        rw [List.map_append, List.nodup_append] at hd
        intro hmem
        exact hd.2.2 n hmem n (by simp) rfl
      rw [List.foldl_cons, insert_of_not_mem b hnew, ih]
      · simp
      · simpa using hd
  exact step pairs [] (by simpa using hd)

/-! The order of names. -/

/-- The comparison that sorts a row. -/
private def comesFirst (a b : String × α) : Bool :=
  decide (a.1 ≤ b.1)

/-- The order of names is transitive. -/
private theorem comesFirst_trans (a b c : String × α) (h : comesFirst a b = true)
    (h' : comesFirst b c = true) : comesFirst a c = true := by
  simp only [comesFirst, decide_eq_true_eq] at *
  exact String.le_trans h h'

/-- Of two things one comes first. -/
private theorem comesFirst_total (a b : String × α) :
    (comesFirst a b || comesFirst b a) = true := by
  simp only [comesFirst, Bool.or_eq_true, decide_eq_true_eq]
  exact String.le_total a.1 b.1

/-- Sorting only changes the order. -/
theorem sorted_perm (row : Named α) : (sorted row).Perm row :=
  List.mergeSort_perm row _

/-- The names of a sorted row come in order. -/
theorem sorted_pairwise (row : Named α) : (sorted row).Pairwise fun a b => a.1 ≤ b.1 := by
  have h := List.pairwise_mergeSort comesFirst_trans comesFirst_total row
  exact h.imp fun hab => by simpa [comesFirst] using hab

/-- Names stay distinct when they are sorted. -/
theorem IsDistinct.sorted {row : Named α} (hd : IsDistinct row) : IsDistinct (sorted row) :=
  hd.perm (sorted_perm row).symm

/-- The names of a mapping increase once it is sorted. -/
theorem sorted_increasing {row : Named α} (hd : IsDistinct row) :
    (sorted row).Pairwise fun a b => a.1 < b.1 := by
  have hnames : (names (sorted row)).Nodup := hd.sorted
  have hne : (sorted row).Pairwise fun a b => a.1 ≠ b.1 := List.pairwise_map.1 hnames
  refine ((sorted_pairwise row).and hne).imp ?_
  intro a b hab
  exact String.not_le.1 fun hba => hab.2 (String.le_antisymm hab.1 hba)

/-- A sorted row has the same things. -/
theorem mem_sorted {row : Named α} {entry : String × α} : entry ∈ sorted row ↔ entry ∈ row :=
  (sorted_perm row).mem_iff

/-- In a sorted row the same is found. -/
theorem find?_sorted {row : Named α} (hd : IsDistinct row) (name : String) :
    find? name (sorted row) = find? name row :=
  (find?_eq_of_perm hd (sorted_perm row).symm name).symm

/-- A row that is in order is not changed by sorting. -/
theorem sorted_sorted (row : Named α) : sorted (sorted row) = sorted row :=
  List.mergeSort_of_pairwise (List.pairwise_mergeSort comesFirst_trans comesFirst_total row)

/-- Rows with distinct names that are permutations of each other are sorted to one row. -/
theorem sorted_eq_of_perm {row row' : Named α} (hd : IsDistinct row) (h : row.Perm row') :
    sorted row = sorted row' := by
  have hperm : (sorted row).Perm (sorted row') :=
    (sorted_perm row).trans (h.trans (sorted_perm row').symm)
  refine hperm.eq_of_pairwise ?_ (sorted_pairwise row) (sorted_pairwise row')
  intro a b ha hb hab hba
  have hname : a.1 = b.1 := String.le_antisymm hab hba
  have ha' : find? a.1 row = some a.2 := find?_of_mem hd (mem_sorted.1 ha)
  have hb' : find? a.1 row = some b.2 :=
    hname ▸ find?_of_mem hd (h.mem_iff.2 (mem_sorted.1 hb))
  exact Prod.ext hname (Option.some.inj (ha'.symm.trans hb'))

/-- **Sorting forgets the order of insertion only.**  Two mappings that find the same
things are sorted to one row. -/
theorem sorted_eq_of_find?_eq {row row' : Named α} (hd : IsDistinct row) (hd' : IsDistinct row')
    (h : ∀ name, find? name row = find? name row') : sorted row = sorted row' := by
  have hmem : ∀ entry, entry ∈ row ↔ entry ∈ row' := by
    intro entry
    obtain ⟨name, a⟩ := entry
    rw [← find?_eq_some_iff hd, ← find?_eq_some_iff hd', h]
  have hnodup : ∀ {row : Named α}, IsDistinct row → row.Nodup := fun hd =>
    List.Pairwise.of_map Prod.fst (fun _ _ hne heq => hne (congrArg Prod.fst heq)) hd
  have hperm : row.Perm row' :=
    (List.perm_ext_iff_of_nodup (hnodup hd) (hnodup hd')).2 hmem
  exact sorted_eq_of_perm hd hperm

/-! Rows whose things are changed under their names. -/

/-- The row with each thing changed by `f`. -/
def mapThings (f : α → β) (row : Named α) : Named β :=
  row.map fun entry => (entry.1, f entry.2)

@[simp] theorem names_mapThings (f : α → β) (row : Named α) :
    names (mapThings f row) = names row := by
  simp [names, mapThings]

/-- Names stay distinct when the things are changed. -/
theorem IsDistinct.mapThings {row : Named α} (hd : IsDistinct row) (f : α → β) :
    IsDistinct (mapThings f row) := by
  rw [IsDistinct, names_mapThings]
  exact hd

/-- What is found after a change of the things is what was found before, changed. -/
theorem find?_mapThings (f : α → β) (name : String) (row : Named α) :
    find? name (mapThings f row) = (find? name row).map f := by
  induction row with
  | nil => rfl
  | cons first rest ih =>
    obtain ⟨n, b⟩ := first
    have hcons : mapThings f ((n, b) :: rest) = (n, f b) :: mapThings f rest := rfl
    rw [hcons]
    by_cases hn : n = name
    · simp [find?, hn]
    · simp [find?, hn, ih]

/-- Sorting looks at names only. -/
theorem sorted_map (f : String × α → β) (row : Named α) :
    sorted (row.map fun entry => (entry.1, f entry)) =
      (sorted row).map fun entry => (entry.1, f entry) := by
  have h : (row.mergeSort comesFirst).map (fun entry => (entry.1, f entry)) =
      (row.map fun entry => (entry.1, f entry)).mergeSort comesFirst :=
    List.map_mergeSort fun _ _ _ _ => rfl
  exact h.symm

/-- It does not matter whether things are sorted or changed first. -/
theorem sorted_mapThings (f : α → β) (row : Named α) :
    sorted (mapThings f row) = mapThings f (sorted row) :=
  sorted_map (fun entry => f entry.2) row

/-- In a row made from names, each name has what was made from it. -/
theorem find?_map_names (f : String → α) (name : String) (given : List String) :
    find? name (given.map fun n => (n, f n)) = if name ∈ given then some (f name) else none := by
  induction given with
  | nil => rfl
  | cons first rest ih =>
    rw [List.map_cons, find?, ih]
    by_cases hfirst : first = name
    · simp [hfirst]
    · simp [hfirst, Ne.symm hfirst]

/-! Counting. -/

/-- What is put in and taken out leaves what is left without its name. -/
theorem erase_insert (name : String) (a : α) (row : Named α) :
    erase name (insert name a row) = erase name row := by
  induction row with
  | nil => simp [insert, erase]
  | cons first rest ih =>
    obtain ⟨n, b⟩ := first
    by_cases hn : n = name
    · simp [insert, erase, hn]
    · simpa [insert, erase, hn] using ih

/-- Nothing is taken out under a name that nothing has. -/
theorem erase_of_find?_none {name : String} {row : Named α} (h : find? name row = none) :
    erase name row = row := by
  refine List.filter_eq_self.2 fun entry hentry => ?_
  have hne : entry.1 ≠ name := by
    intro heq
    exact find?_eq_none_iff.1 h (heq ▸ List.mem_map_of_mem hentry)
  simpa using hne

/-- What is counted in a row is counted without a name, and then under it. -/
theorem countP_of_find? {name : String} {a : α} {row : Named α} (hd : IsDistinct row)
    (h : find? name row = some a) (test : String × α → Bool) :
    row.countP test = (erase name row).countP test + if test (name, a) then 1 else 0 := by
  induction row with
  | nil => simp at h
  | cons first rest ih =>
    obtain ⟨n, b⟩ := first
    obtain ⟨hnew, hrest⟩ := isDistinct_cons.1 hd
    by_cases hn : n = name
    · subst hn
      obtain rfl : b = a := by simpa [find?] using h
      have herase : erase n ((n, b) :: rest) = rest := by
        have hkept := erase_of_find?_none (find?_eq_none_iff.2 hnew)
        simpa [erase] using hkept
      rw [herase, List.countP_cons]
    · have hbelow : find? name rest = some a := by simpa [find?, hn] using h
      have herase : erase name ((n, b) :: rest) = (n, b) :: erase name rest := by
        simp [erase, hn]
      rw [herase, List.countP_cons, List.countP_cons, ih hrest hbelow]
      omega

/-- What is put in is counted in place of what had its name. -/
theorem countP_insert {row : Named α} (hd : IsDistinct row) (name : String) (a : α)
    (test : String × α → Bool) : (insert name a row).countP test =
      (erase name row).countP test + if test (name, a) then 1 else 0 := by
  rw [countP_of_find? (hd.insert name a) (find?_insert_self name a row), erase_insert]

end TaskTree.Named
