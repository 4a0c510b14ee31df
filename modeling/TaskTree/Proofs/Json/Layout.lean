import TaskTree.Proofs.Json.Strings
import TaskTree.Proofs.Named

/-!
# Written values are read back

The values of snapshots and of contents are made of strings and objects, whose
names are distinct and whose nesting is bounded (`IsTextual`).  Such a value
comes back from its layout over several lines (`read_pretty`), and a flat one
from its layout on one line (`read_line_flat`).  Both rest on one fact about
the members of an object (`readMembers_written`), in which a layout is no more
than the white space that it puts between members.
-/

namespace TaskTree.Json

/-- Values made of strings and objects, with distinct names in each object and no more
than so many objects inside each other. -/
inductive IsTextual : Nat → Json → Prop
  | string (n : Nat) (s : String) : IsTextual n (.string s)
  | object {n : Nat} {members : List (String × Json)} (distinct : Named.IsDistinct members)
      (below : ∀ member ∈ members, IsTextual n member.2) : IsTextual (n + 1) (.object members)

theorem IsTextual.mono {n m : Nat} {v : Json} (h : IsTextual n v) (hle : n ≤ m) :
    IsTextual m v := by
  induction h generalizing m with
  | string n s => exact .string m s
  | object distinct below ih =>
    obtain ⟨k, rfl⟩ : ∃ k, m = k + 1 := ⟨m - 1, by omega⟩
    exact .object distinct fun member hm => ih member hm (by omega)

/-! White space. -/

/-- White space in front of something else is skipped. -/
theorem skip_append (gap : List Char) (hgap : ∀ c ∈ gap, isSpace c = true) {c : Char}
    (hc : isSpace c = false) (rest : List Char) : skip (gap ++ c :: rest) = c :: rest := by
  unfold skip
  rw [List.dropWhile_append_of_pos hgap, List.dropWhile_cons_of_neg (by simp [hc])]

theorem skip_cons {c : Char} (hc : isSpace c = false) (rest : List Char) :
    skip (c :: rest) = c :: rest :=
  skip_append [] (by simp) hc rest

/-- A line break and its indent are space. -/
theorem isSpace_lineBreak (level : Nat) : ∀ c ∈ lineBreak level, isSpace c = true := by
  intro c hc
  rcases List.mem_cons.1 hc with rfl | hc
  · rfl
  · rw [(List.mem_replicate.1 hc).2]
    rfl

/-! The members of an object. -/

/-- The text of the members after the first one, with a comma and white space before each. -/
def membersText (escape : Char → List Char) (gap : List Char) (write : Json → List Char)
    (members : List (String × Json)) : List Char :=
  members.flatMap fun member =>
    ',' :: gap ++ quoteWith escape member.1 ++ ':' :: ' ' :: write member.2

/-- Members are read back from their text if the values are. -/
theorem readMembers_written {value : List Char → Read Json} {escape : Char → List Char}
    (hescape : IsReadable escape) {gap close : List Char}
    (hgap : ∀ c ∈ gap, isSpace c = true) (hclose : ∀ c ∈ close, isSpace c = true)
    {write : Json → List Char} {members : List (String × Json)} {name : String} {v : Json}
    (hvalue : ∀ member ∈ (name, v) :: members, ∀ rest,
      value (skip (' ' :: write member.2 ++ rest)) = .ok (member.2, rest))
    {fuel : Nat} (hfuel : members.length < fuel) (rest : List Char) :
    readMembers value fuel (quoteWith escape name ++ ':' :: ' ' :: write v ++
      membersText escape gap write members ++ close ++ '\x7d' :: rest) =
      .ok ((name, v) :: members, rest) := by
  induction members generalizing name v fuel with
  | nil =>
    obtain ⟨fuel, rfl⟩ : ∃ f, fuel = f + 1 := ⟨fuel - 1, by simp at hfuel; omega⟩
    have hv := hvalue (name, v) (by simp) (close ++ '\x7d' :: rest)
    simp only [List.cons_append] at hv
    simp only [quoteWith, membersText, List.flatMap_nil, List.append_nil, List.cons_append,
      List.append_assoc, List.nil_append, readMembers]
    rw [readString_quoteWith hescape]
    simp only [skip_cons (c := ':') rfl, hv, skip_append close hclose (c := '\x7d') rfl]
  | cons next members ih =>
    obtain ⟨fuel, rfl⟩ : ∃ f, fuel = f + 1 := ⟨fuel - 1, by simp at hfuel; omega⟩
    have hrest := @ih next.1 next.2
      (fun member hm => hvalue member (List.mem_cons_of_mem _ hm)) fuel (by simpa using hfuel)
    have hv := hvalue (name, v) (by simp) (membersText escape gap write (next :: members) ++
      (close ++ '\x7d' :: rest))
    simp only [quoteWith, List.cons_append, List.append_assoc, List.nil_append] at hrest
    simp only [membersText, List.flatMap_cons, quoteWith, List.cons_append, List.append_assoc,
      List.nil_append] at hv hrest ⊢
    simp only [readMembers]
    rw [readString_quoteWith hescape]
    simp only [skip_cons (c := ':') rfl, hv, skip_cons (c := ',') rfl,
      skip_append gap hgap (c := '"') rfl, hrest]

/-- Each member takes at least one character of the text. -/
theorem length_le_membersText (escape : Char → List Char) (gap : List Char)
    (write : Json → List Char) (members : List (String × Json)) :
    members.length ≤ (membersText escape gap write members).length := by
  induction members with
  | nil => simp
  | cons member members ih =>
    simp only [membersText, List.flatMap_cons, List.length_append, List.length_cons] at ih ⊢
    omega

mutual

/-- What stands behind the text that is handed down stays behind it. -/
theorem prettyOnto_append (level : Nat) (v : Json) (text rest : List Char) :
    prettyOnto level v (text ++ rest) = prettyOnto level v text ++ rest := by
  match v with
  | .array [] => simp only [prettyOnto, List.cons_append]
  | .array (v :: vs) =>
    simp only [prettyOnto, ← List.cons_append, ← List.append_assoc (lineBreak level)]
    rw [prettyElements_append, prettyOnto_append, List.append_assoc]
  | .object [] => simp only [prettyOnto, List.cons_append]
  | .object ((name, v) :: members) =>
    simp only [prettyOnto, ← List.cons_append, ← List.append_assoc (lineBreak level)]
    rw [prettyMembers_append, prettyOnto_append]
    simp only [List.cons_append, List.append_assoc]
  | .null | .bool _ | .int _ | .float _ | .string _ =>
    simp only [prettyOnto, List.append_assoc]

/-- The text after an array's elements stays after them. -/
theorem prettyElements_append (level : Nat) (vs : List Json) (text rest : List Char) :
    prettyElements level vs (text ++ rest) = prettyElements level vs text ++ rest := by
  match vs with
  | [] => rfl
  | v :: vs =>
    simp only [prettyElements]
    rw [prettyElements_append, prettyOnto_append, List.append_assoc]

/-- The text after an object's members stays after them. -/
theorem prettyMembers_append (level : Nat) (members : List (String × Json))
    (text rest : List Char) :
    prettyMembers level members (text ++ rest) = prettyMembers level members text ++ rest := by
  match members with
  | [] => rfl
  | (name, v) :: members =>
    simp only [prettyMembers]
    rw [prettyMembers_append, prettyOnto_append]
    simp only [List.cons_append, List.append_assoc]

end

/-- Writing a value in front of a text is writing the value and then the text. -/
theorem prettyOnto_eq (level : Nat) (v : Json) (text : List Char) :
    prettyOnto level v text = prettyAt level v ++ text :=
  prettyOnto_append level v [] text

/-- The indented members are the members' text at that line break. -/
theorem prettyMembers_eq (level : Nat) (members : List (String × Json)) (text : List Char) :
    prettyMembers level members text =
      membersText escapeRaw (lineBreak level) (prettyAt level) members ++ text := by
  induction members with
  | nil => rfl
  | cons member members ih =>
    simp [prettyMembers, prettyOnto_eq, ih, membersText]

/-- The members on one line are the members' text with a blank between them. -/
theorem lineMembers_eq (members : List (String × Json)) :
    lineMembers members = membersText escapeAscii [' '] lineChars members := by
  induction members with
  | nil => simp [lineMembers, membersText]
  | cons member members ih =>
    simp [lineMembers, ih, membersText]

/-! Values. -/

/-- A quoted string is read back whatever follows. -/
theorem readValue_quoteWith {escape : Char → List Char} (hescape : IsReadable escape) (n : Nat)
    (s : String) (rest : List Char) :
    readValue n (quoteWith escape s ++ rest) = .ok (.string s, rest) := by
  have htext : quoteWith escape s ++ rest = '"' :: (s.toList.flatMap escape ++ '"' :: rest) := by
    simp [quoteWith]
  rw [htext]
  cases n <;> simp [readValue, readString_quoteWith hescape]

/-- Reading an object that is not empty comes down to reading its members. -/
theorem readValue_members (n : Nat) {start : List Char} (hstart : ∀ c ∈ start, isSpace c = true)
    (escape : Char → List Char) (gap : List Char) (write : Json → List Char) (name : String)
    (v : Json) (members : List (String × Json)) (rest : List Char) :
    ∃ fuel, members.length < fuel ∧
      readValue (n + 1) ('\x7b' :: start ++ quoteWith escape name ++ ':' :: ' ' :: write v ++
          membersText escape gap write members ++ rest) =
        match readMembers (readValue n) fuel (quoteWith escape name ++ ':' :: ' ' :: write v ++
          membersText escape gap write members ++ rest) with
        | .error refusal => .error refusal
        | .ok (members, rest) => .ok (.object (Named.ofPairs members), rest) := by
  generalize htext : quoteWith escape name ++ ':' :: ' ' :: write v ++
      membersText escape gap write members ++ rest = text
  have hlength : members.length < text.length + 1 := by
    have := length_le_membersText escape gap write members
    rw [← htext]
    simp only [List.length_append, List.length_cons]
    omega
  have hwhole : '\x7b' :: start ++ quoteWith escape name ++ ':' :: ' ' :: write v ++
      membersText escape gap write members ++ rest = '\x7b' :: (start ++ text) := by
    rw [← htext]
    simp only [List.cons_append, List.append_assoc]
  obtain ⟨more, rfl⟩ : ∃ more, text = '"' :: more := by
    rw [← htext]
    simp only [quoteWith, List.cons_append]
    exact ⟨_, rfl⟩
  refine ⟨_, hlength, ?_⟩
  rw [hwhole, readValue, skip_append start hstart rfl]
  rfl

/-- An object is read back from its text if its members are. -/
theorem readValue_object {n : Nat} {name : String} {v : Json} {members : List (String × Json)}
    (hdistinct : Named.IsDistinct ((name, v) :: members)) {escape : Char → List Char}
    (hescape : IsReadable escape) (start gap close : List Char)
    (hstart : ∀ c ∈ start, isSpace c = true) (hgap : ∀ c ∈ gap, isSpace c = true)
    (hclose : ∀ c ∈ close, isSpace c = true) {write : Json → List Char}
    (hvalue : ∀ member ∈ (name, v) :: members, ∀ rest,
      readValue n (skip (' ' :: write member.2 ++ rest)) = .ok (member.2, rest))
    (rest : List Char) :
    readValue (n + 1) ('\x7b' :: start ++ quoteWith escape name ++ ':' :: ' ' :: write v ++
      membersText escape gap write members ++ close ++ '\x7d' :: rest) =
      .ok (.object ((name, v) :: members), rest) := by
  obtain ⟨fuel, hfuel, hread⟩ :=
    readValue_members n hstart escape gap write name v members (close ++ '\x7d' :: rest)
  have hmembers := readMembers_written hescape hgap hclose hvalue hfuel rest
  rw [List.append_assoc _ close] at hmembers ⊢
  rw [hread, hmembers]
  simp only [Named.ofPairs_eq_self hdistinct]

/-- A string is written quoted, at any level. -/
theorem prettyAt_string (level : Nat) (s : String) :
    prettyAt level (.string s) = quoteWith escapeRaw s := by
  rw [prettyAt, prettyOnto, scalar, List.append_nil] <;> simp

theorem prettyAt_object_nil (level : Nat) : prettyAt level (.object []) = ['\x7b', '\x7d'] := by
  rw [prettyAt, prettyOnto]

/-- On one line a string is written quoted, in ASCII. -/
theorem lineChars_string (s : String) : lineChars (.string s) = quoteWith escapeAscii s := by
  rw [lineChars, scalar] <;> simp

/-- An object is written member by member, each on a line one level further in. -/
theorem prettyAt_object (level : Nat) (name : String) (v : Json)
    (members : List (String × Json)) :
    prettyAt level (.object ((name, v) :: members)) =
      '\x7b' :: lineBreak (level + 1) ++ quoteWith escapeRaw name ++ ':' :: ' ' ::
        prettyAt (level + 1) v ++
        membersText escapeRaw (lineBreak (level + 1)) (prettyAt (level + 1)) members ++
        lineBreak level ++ ['\x7d'] := by
  rw [prettyAt, prettyOnto, prettyOnto_eq, prettyMembers_eq]
  simp only [List.cons_append, List.append_assoc]

/-- A layout begins with neither white space nor a byte order mark. -/
theorem prettyAt_head {n : Nat} {v : Json} (h : IsTextual n v) (level : Nat) :
    ∃ c rest, prettyAt level v = c :: rest ∧ isSpace c = false ∧ c ≠ '\ufeff' := by
  cases h with
  | string n s => exact ⟨'"', _, prettyAt_string level s, rfl, by decide⟩
  | @object n members distinct below =>
    cases members with
    | nil => exact ⟨_, _, prettyAt_object_nil level, rfl, by decide⟩
    | cons member members =>
      exact ⟨_, _, prettyAt_object level member.1 member.2 members, rfl, by decide⟩

/-- Only the blank in front of a written value is skipped. -/
theorem skip_prettyAt {n : Nat} {v : Json} (h : IsTextual n v) (level : Nat) (rest : List Char) :
    skip (' ' :: prettyAt level v ++ rest) = prettyAt level v ++ rest := by
  obtain ⟨c, more, htext, hc, -⟩ := prettyAt_head h level
  rw [htext]
  exact skip_append [' '] (by simp [isSpace]) hc _

/-- A value is read back from its layout over several lines, whatever stands behind it. -/
theorem readValue_prettyAt {n : Nat} {v : Json} (h : IsTextual n v) (level : Nat)
    (rest : List Char) : readValue n (prettyAt level v ++ rest) = .ok (v, rest) := by
  induction h generalizing level rest with
  | string n s =>
    rw [prettyAt_string]
    exact readValue_quoteWith isReadable_escapeRaw n s rest
  | @object n members distinct below ih =>
    cases members with
    | nil => simp [prettyAt_object_nil, readValue, skip_cons (c := '\x7d') rfl]
    | cons member members =>
      obtain ⟨name, v⟩ := member
      have hvalue : ∀ member ∈ (name, v) :: members, ∀ rest,
          readValue n (skip (' ' :: prettyAt (level + 1) member.2 ++ rest)) =
            .ok (member.2, rest) := by
        intro member hm rest
        rw [skip_prettyAt (below member hm)]
        exact ih member hm (level + 1) rest
      have hobject := readValue_object distinct isReadable_escapeRaw _ _ _
        (isSpace_lineBreak (level + 1)) (isSpace_lineBreak (level + 1)) (isSpace_lineBreak level)
        hvalue rest
      rw [prettyAt_object]
      simpa only [List.cons_append, List.append_assoc, List.nil_append] using hobject

/-- A text that begins with neither white space nor a byte order mark is read from its front. -/
theorem read_of_head {n : Nat} {cs : List Char}
    (hhead : ∃ c rest, cs = c :: rest ∧ isSpace c = false ∧ c ≠ '\ufeff') :
    read n cs =
      match readValue n cs with
      | .error refusal => .error refusal
      | .ok (v, rest) =>
        match skip rest with
        | [] => .ok v
        | rest => .error (.malformed .trailingText rest) := by
  obtain ⟨c, rest, rfl, hspace, hmark⟩ := hhead
  have hread : read n (c :: rest) = readAll n (c :: rest) := by
    unfold read
    split
    · next heq => cases heq; exact absurd rfl hmark
    · rfl
  rewrite [hread, readAll, skip_cons hspace]
  rfl

/-- The text of a value is read as the value, if reading takes it up whole. -/
theorem read_of_readValue {n : Nat} {v : Json} {cs : List Char}
    (hhead : ∃ c rest, cs = c :: rest ∧ isSpace c = false ∧ c ≠ '\ufeff')
    (h : readValue n cs = .ok (v, [])) : read n cs = .ok v := by
  rw [read_of_head hhead, h]
  rfl

/-- **Values come back.**  A value made of strings and objects is read back from its layout
over several lines. -/
theorem read_pretty {n : Nat} {v : Json} (h : IsTextual n v) :
    read n v.pretty.toList = .ok v := by
  rw [pretty, String.toList_ofList]
  exact read_of_readValue (prettyAt_head h 0) (by simpa using readValue_prettyAt h 0 [])

/-- A string in quotes holds no control characters. -/
theorem not_control_quoteWith {s : String} {c : Char} (hc : c ∈ quoteWith escapeRaw s) :
    0x20 ≤ c.toNat := by
  simp only [quoteWith, List.mem_cons, List.mem_append, List.mem_flatMap, List.not_mem_nil,
    or_false] at hc
  rcases hc with (rfl | ⟨d, -, hd⟩) | rfl
  · decide
  · exact not_control_escapeRaw hd
  · decide

/-- A line break is the only control character of the layout. -/
theorem not_control_lineBreak {level : Nat} {c : Char} (hc : c ∈ lineBreak level) :
    c = '\n' ∨ 0x20 ≤ c.toNat := by
  rcases List.mem_cons.1 hc with rfl | hc
  · exact .inl rfl
  · rw [(List.mem_replicate.1 hc).2]
    exact .inr (by decide)

/-- The control characters in a layout over several lines are its line ends. -/
theorem not_control_prettyAt {n : Nat} {v : Json} (h : IsTextual n v) {level : Nat} {c : Char}
    (hc : c ∈ prettyAt level v) : c = '\n' ∨ 0x20 ≤ c.toNat := by
  induction h generalizing level with
  | string n s =>
    rw [prettyAt_string] at hc
    exact .inr (not_control_quoteWith hc)
  | @object n members distinct below ih =>
    cases members with
    | nil =>
      rw [prettyAt_object_nil] at hc
      simp only [List.mem_cons, List.not_mem_nil, or_false] at hc
      rcases hc with rfl | rfl
      · exact .inr (by decide)
      · exact .inr (by decide)
    | cons first members =>
      obtain ⟨name, v⟩ := first
      rw [prettyAt_object] at hc
      simp only [List.cons_append, List.append_assoc, List.mem_cons, List.mem_append,
        membersText, List.mem_flatMap, List.not_mem_nil, or_false] at hc
      rcases hc with rfl | hc | hc | rfl | rfl | hc | ⟨member, hm, hc⟩ | hc | rfl
      · exact .inr (by decide)
      · exact not_control_lineBreak hc
      · exact .inr (not_control_quoteWith hc)
      · exact .inr (by decide)
      · exact .inr (by decide)
      · exact ih (name, v) (List.mem_cons_self ..) hc
      · rcases hc with rfl | hc | hc | rfl | rfl | hc
        · exact .inr (by decide)
        · exact not_control_lineBreak hc
        · exact .inr (not_control_quoteWith hc)
        · exact .inr (by decide)
        · exact .inr (by decide)
        · exact ih member (List.mem_cons_of_mem _ hm) hc
      · exact not_control_lineBreak hc
      · exact .inr (by decide)

/-- A value over several lines has no carriage return, so folding line ends does nothing to
it. -/
theorem not_mem_pretty {n : Nat} {v : Json} (h : IsTextual n v) : '\r' ∉ v.pretty.toList := by
  intro hmem
  rw [pretty, String.toList_ofList] at hmem
  rcases not_control_prettyAt h hmem with heq | hcode
  · exact absurd heq (by decide)
  · exact absurd hcode (by decide)

/-- A flat object of strings is read back from its layout on one line. -/
theorem read_line_flat {n : Nat} {name : String} {v : Json} {members : List (String × Json)}
    (hdistinct : Named.IsDistinct ((name, v) :: members))
    (hstring : ∀ member ∈ (name, v) :: members, ∃ s, member.2 = .string s) :
    read (n + 1) (line (.object ((name, v) :: members))).toList =
      .ok (.object ((name, v) :: members)) := by
  have hvalue : ∀ member ∈ (name, v) :: members, ∀ rest,
      readValue n (skip (' ' :: lineChars member.2 ++ rest)) = .ok (member.2, rest) := by
    intro member hm rest
    obtain ⟨s, hs⟩ := hstring member hm
    have hskip : skip (' ' :: quoteWith escapeAscii s ++ rest) =
        quoteWith escapeAscii s ++ rest := by
      rw [quoteWith]
      exact skip_append [' '] (by simp [isSpace]) rfl _
    rw [hs, lineChars_string, hskip]
    exact readValue_quoteWith isReadable_escapeAscii n s rest
  have hobject := readValue_object hdistinct isReadable_escapeAscii [] [' '] []
    (by simp) (by simp [isSpace]) (by simp) hvalue []
  rw [line, String.toList_ofList, lineChars, lineMembers_eq]
  refine read_of_readValue ⟨_, _, rfl, rfl, by decide⟩ ?_
  simpa only [List.cons_append, List.append_assoc, List.nil_append, List.append_nil] using hobject

end TaskTree.Json
