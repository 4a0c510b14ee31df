import TaskTree.Proofs.Node.Normal
import TaskTree.Proofs.Tables.Rows

/-!
# Contents of rows

The text that a row keeps for an item has printable characters of ASCII only,
so no null ends it and no encoding changes it, whatever the title and the
description are made of (`Json.isPlainAscii_lineChars`).  It is read back as the
item that it was written for, and so tells items apart (`Row.item_survives`).
-/

namespace TaskTree

namespace Text

/-- A character of ASCII that is no control. -/
def IsPlainAscii (c : Char) : Prop :=
  0x20 ≤ c.toNat ∧ c.toNat < 0x7f

instance (c : Char) : Decidable (IsPlainAscii c) := by
  unfold IsPlainAscii; infer_instance

end Text

open Text (IsPlainAscii)

namespace Json

/-- A unit is escaped in plain ASCII. -/
theorem isPlainAscii_escapeUnit {n : Nat} {d : Char} (h : d ∈ escapeUnit n) : IsPlainAscii d := by
  have hdigit : ∀ m, m < 16 → IsPlainAscii (Text.hexDigit m) := by decide
  simp only [escapeUnit, Text.hexDigits, List.nil_append, List.cons_append, List.mem_cons,
    List.not_mem_nil, or_false] at h
  rcases h with rfl | rfl | rfl | rfl | rfl | rfl
  · decide
  · decide
  all_goals exact hdigit _ (Nat.mod_lt _ (by decide))

/-- A short escape is plain ASCII. -/
theorem isPlainAscii_shortEscape {c e : Char} (h : shortEscape? c = some e) : IsPlainAscii e := by
  unfold shortEscape? at h
  repeat' split at h
  all_goals cases h
  all_goals decide

/-- Escaping to ASCII leaves printable characters only. -/
theorem isPlainAscii_escapeAscii {c d : Char} (h : d ∈ escapeAscii c) : IsPlainAscii d := by
  unfold escapeAscii at h
  cases hshort : shortEscape? c with
  | some e =>
    simp only [hshort, List.mem_cons, List.not_mem_nil, or_false] at h
    rcases h with rfl | rfl
    · decide
    · exact isPlainAscii_shortEscape hshort
  | none =>
    simp only [hshort] at h
    split at h
    · next hplain =>
      rw [List.mem_singleton.1 h]
      exact hplain
    · split at h
      · exact isPlainAscii_escapeUnit h
      · rcases List.mem_append.1 h with h | h
        · exact isPlainAscii_escapeUnit h
        · exact isPlainAscii_escapeUnit h

/-- A text is quoted in plain ASCII. -/
theorem isPlainAscii_quoteWith {s : String} {d : Char} (h : d ∈ quoteWith escapeAscii s) :
    IsPlainAscii d := by
  simp only [quoteWith, List.mem_cons, List.mem_append, List.mem_flatMap, List.not_mem_nil,
    or_false] at h
  rcases h with (rfl | ⟨c, -, hc⟩) | rfl
  · decide
  · exact isPlainAscii_escapeAscii hc
  · decide

/-- Members are written in plain ASCII if their values are. -/
theorem isPlainAscii_membersText {members : List (String × Json)}
    (hvalues : ∀ member ∈ members, ∀ d ∈ lineChars member.2, IsPlainAscii d) {d : Char}
    (h : d ∈ membersText escapeAscii [' '] lineChars members) : IsPlainAscii d := by
  obtain ⟨member, hmem, hd⟩ := List.mem_flatMap.1 h
  simp only [List.cons_append, List.nil_append, List.mem_cons, List.mem_append] at hd
  rcases hd with rfl | rfl | hd | rfl | rfl | hd
  · decide
  · decide
  · exact isPlainAscii_quoteWith hd
  · decide
  · decide
  · exact hvalues member hmem d hd

/-- Objects of strings, however they are nested, are printable on one line. -/
theorem isPlainAscii_lineChars {n : Nat} {v : Json} (h : IsTextual n v) :
    ∀ d ∈ lineChars v, IsPlainAscii d := by
  induction h with
  | string n s =>
    intro d hd
    rw [lineChars_string] at hd
    exact isPlainAscii_quoteWith hd
  | @object n members distinct below ih =>
    intro d hd
    cases members with
    | nil =>
      simp only [lineChars, List.mem_cons, List.not_mem_nil, or_false] at hd
      rcases hd with rfl | rfl
      · decide
      · decide
    | cons first rest =>
      obtain ⟨name, v⟩ := first
      rw [lineChars, lineMembers_eq] at hd
      simp only [List.cons_append, List.append_assoc, List.mem_cons, List.mem_append,
        List.not_mem_nil, or_false] at hd
      rcases hd with rfl | hd | rfl | rfl | hd | hd | rfl
      · decide
      · exact isPlainAscii_quoteWith hd
      · decide
      · decide
      · exact ih (name, v) List.mem_cons_self d hd
      · exact isPlainAscii_membersText
          (fun member hmem => ih member (List.mem_cons_of_mem _ hmem)) hd
      · decide

end Json

namespace ItemFields

/-- The text of an item is plain. -/
theorem isPlainAscii_text (item : Item) : ∀ c ∈ (ofItem item).text.toList, IsPlainAscii c := by
  have htextual : Json.IsTextual 1 (.object [("title", .string item.title),
      ("description", .string item.description), ("state", .string item.state.word)]) := by
    refine .object (by simp [Named.IsDistinct, Named.names]) ?_
    simp only [List.forall_mem_cons]
    exact ⟨.string _ _, .string _ _, .string _ _, by simp⟩
  rw [text, Json.line, String.toList_ofList]
  exact Json.isPlainAscii_lineChars htextual

/-- The text of an item tells it, since the item is read back from it. -/
theorem text_inj {item other : Item} :
    (ofItem item).text = (ofItem other).text ↔ item = other := by
  constructor
  · intro h
    have hread := read_text item
    rw [h, read_text other] at hread
    obtain ⟨htitle, hdescription, hstate⟩ : other.title = item.title ∧
        other.description = item.description ∧ other.state = item.state := by
      simpa [TaskState.word_inj] using hread
    cases item
    cases other
    simp_all
  · rintro rfl
    rfl

end ItemFields

namespace Row

/-- **The content of an item survives its column.**  A row with the text of an item is read, and
what is read has the fields of that item, whatever row it is and whatever characters the title and
the description are made of.  The text itself is plain, and no other item has the same one. -/
theorem item_survives (row : Row) (item : Item) :
    (∃ read fields, ({ row with content := some (ItemFields.ofItem item).text } : Row).read =
        .ok read ∧ read.fields = .ok fields ∧ fields.item? = some item) ∧
    (∀ c ∈ (ItemFields.ofItem item).text.toList, IsPlainAscii c) ∧
    ∀ other, (ItemFields.ofItem other).text = (ItemFields.ofItem item).text ↔ other = item := by
  refine ⟨?_, ItemFields.isPlainAscii_text item, fun other => ItemFields.text_inj⟩
  have hcontent : ({ row with content := some (ItemFields.ofItem item).text } : Row).content =
      some (ItemFields.ofItem item).text := rfl
  obtain ⟨read, hread, -, hfields⟩ := read_item hcontent
  exact ⟨read, ItemFields.ofItem item, hread, hfields, ItemFields.item?_ofItem item⟩

end Row

end TaskTree
