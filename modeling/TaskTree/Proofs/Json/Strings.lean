import TaskTree.Json.Printer
import TaskTree.Json.Reader

/-!
# Written strings are read back

A character inside a string is written as itself, as a short escape, as an
escape by number, or as two of them.  Whatever its form, the reader takes
exactly that form from the text and goes on behind it (`IsReadable`), with one
proviso that the reader makes: behind an escape by number there is another
character, which there always is, since a string ends with a quote.  Both
ways of escaping are readable, so any string comes back from its quoted form
(`readString_quoteWith`).
-/

namespace TaskTree.Json

/-- A way to escape is readable if each written character is read as the one it stands
for, with the reading of the text behind it unchanged. -/
def IsReadable (escape : Char → List Char) : Prop :=
  ∀ (opening : List Char) (c after : Char) (rest : List Char),
    readChars opening (escape c ++ after :: rest) =
      match readChars opening (after :: rest) with
      | .error refusal => .error refusal
      | .ok (cs, rest') => .ok (c :: cs, rest')

/-! Numbers in hexadecimal digits. -/

/-- Four digits write every number of sixteen bits. -/
theorem hexNumber?_hexDigits {n : Nat} (h : n < 0x10000) :
    Text.hexNumber? (Text.hexDigits 4 n) = some n := by
  have hdigit : ∀ m, Text.hexValue? (Text.hexDigit (m % 16)) = some (m % 16) := fun m =>
    Text.hexValue?_hexDigit _ (Nat.mod_lt _ (by decide))
  simp only [Text.hexDigits, List.nil_append, List.cons_append, Text.hexNumber?,
    List.foldlM_cons, List.foldlM_nil, hdigit, Option.map_some, Option.bind_eq_bind,
    Option.bind_some, Option.pure_def, Option.some.injEq]
  omega

/-- Four digits are written for a unit. -/
theorem hexDigits_four (n : Nat) : ∃ a b c d, Text.hexDigits 4 n = [a, b, c, d] :=
  ⟨_, _, _, _, rfl⟩

/-! One character at a time. -/

/-- A character that needs no escape. -/
theorem readChars_plain {opening : List Char} {c : Char} (hquote : c ≠ '"')
    (hbackslash : c ≠ '\\') (hcontrol : ¬ c.toNat < 0x20) (rest : List Char) :
    readChars opening (c :: rest) =
      match readChars opening rest with
      | .error refusal => .error refusal
      | .ok (cs, rest') => .ok (c :: cs, rest') := by
  rw [readChars.eq_def]
  split
  · next h => cases h
  · next h => cases h; exact absurd rfl hquote
  · next h => cases h; exact absurd rfl hbackslash
  · next h =>
    cases h
    exact (if_neg hcontrol).trans rfl

/-- Behind a backslash an escape is read. -/
theorem readChars_escape {opening text rest : List Char} {c : Char}
    (h : readEscape opening text = .ok (c, rest)) :
    readChars opening ('\\' :: text) =
      match readChars opening rest with
      | .error refusal => .error refusal
      | .ok (cs, rest') => .ok (c :: cs, rest') := by
  rw [readChars.eq_def]
  split
  · next h' => cases h'
  · next h' => cases h'
  · next h' =>
    cases h'
    split
    · next h'' => rw [h] at h''; cases h''
    · next h'' => rw [h] at h''; cases h''; rfl
  · next hne h' => cases h'; exact (hne rfl).elim

/-- A short escape is read as the character that it was written for. -/
theorem readEscape_short {opening : List Char} {c e : Char} (h : shortEscape? c = some e)
    (rest : List Char) : readEscape opening (e :: rest) = .ok (c, rest) := by
  have hnat : ∀ n, c.toNat = n → c = Char.ofNat n := fun n hn => by
    rw [← hn, Char.ofNat_toNat]
  unfold shortEscape? at h
  split at h
  · next hc => subst hc; cases h; rfl
  split at h
  · next hc => subst hc; cases h; rfl
  split at h
  · next hc => subst hc; cases h; rfl
  split at h
  · next hc => subst hc; cases h; rfl
  split at h
  · next hc => subst hc; cases h; rfl
  split at h
  · next h8 => cases h; rw [hnat 8 h8]; rfl
  split at h
  · next h12 => cases h; rw [hnat 12 h12]; rfl
  · cases h

/-- No character is a surrogate. -/
theorem not_surrogate (c : Char) : ¬ (0xd800 ≤ c.toNat ∧ c.toNat < 0xe000) := by
  have h : c.toNat < 0xd800 ∨ (0xdfff < c.toNat ∧ c.toNat < 0x110000) := c.valid
  omega

/-- A unit that is a character spells that character. -/
theorem unitChar_toNat (c : Char) : unitChar c.toNat = c := by
  rw [unitChar, if_neg (not_surrogate c), Char.ofNat_toNat]

/-- An escape by number is read as the character of sixteen bits that it was written for. -/
theorem readEscape_unit {opening : List Char} {c : Char} (h : c.toNat < 0x10000) (after : Char)
    (rest : List Char) :
    readEscape opening ('u' :: Text.hexDigits 4 c.toNat ++ after :: rest) =
      .ok (c, after :: rest) := by
  obtain ⟨w, x, y, z, hdigits⟩ := hexDigits_four c.toNat
  have hnumber := hexNumber?_hexDigits h
  have hlow : isHighSurrogate c.toNat = false := by
    have hc := not_surrogate c
    simp only [isHighSurrogate, Bool.and_eq_false_imp, decide_eq_true_eq, decide_eq_false_iff_not]
    omega
  rw [hdigits] at hnumber ⊢
  simp only [List.cons_append, List.nil_append, readEscape, unicodeEscape, hnumber, hlow,
    Bool.false_eq_true, if_false, unitChar_toNat]

/-- Two escapes by number are read as the character beyond sixteen bits that they were
written for. -/
theorem readEscape_pair {opening : List Char} {c : Char} (h : ¬ c.toNat < 0x10000)
    (after : Char) (rest : List Char) :
    readEscape opening ('u' :: Text.hexDigits 4 (0xd800 + (c.toNat - 0x10000) / 0x400) ++
      escapeUnit (0xdc00 + (c.toNat - 0x10000) % 0x400) ++ after :: rest) =
      .ok (c, after :: rest) := by
  have hbound : c.toNat < 0x110000 := by
    have hv : c.toNat < 0xd800 ∨ (0xdfff < c.toNat ∧ c.toNat < 0x110000) := c.valid
    omega
  generalize hhigh : 0xd800 + (c.toNat - 0x10000) / 0x400 = high
  generalize hlow : 0xdc00 + (c.toNat - 0x10000) % 0x400 = low
  obtain ⟨w, x, y, z, hdigits⟩ := hexDigits_four high
  obtain ⟨w', x', y', z', hdigits'⟩ := hexDigits_four low
  have hnumber : Text.hexNumber? (Text.hexDigits 4 high) = some high :=
    hexNumber?_hexDigits (by omega)
  have hnumber' : Text.hexNumber? (Text.hexDigits 4 low) = some low :=
    hexNumber?_hexDigits (by omega)
  have hisHigh : isHighSurrogate high = true := by
    simp only [isHighSurrogate, Bool.and_eq_true, decide_eq_true_eq]
    omega
  have hisLow : isLowSurrogate low = true := by
    simp only [isLowSurrogate, Bool.and_eq_true, decide_eq_true_eq]
    omega
  have hchar : pairChar high low = c := by
    have hsum : 0x10000 + (high - 0xd800) * 0x400 + (low - 0xdc00) = c.toNat := by omega
    rw [pairChar, hsum, Char.ofNat_toNat]
  rw [hdigits] at hnumber ⊢
  rw [hdigits'] at hnumber'
  simp only [escapeUnit, hdigits', List.cons_append, List.nil_append, readEscape, unicodeEscape,
    hnumber, hisHigh, if_true, lowHalf, hnumber', hisLow, hchar]

/-- The escapes that keep characters beyond ASCII can be read. -/
theorem isReadable_escapeRaw : IsReadable escapeRaw := by
  intro opening c after rest
  unfold escapeRaw
  cases hshort : shortEscape? c with
  | some e => exact readChars_escape (readEscape_short hshort (after :: rest))
  | none =>
    by_cases hcontrol : c.toNat < 0x20
    · simp only [if_pos hcontrol]
      exact readChars_escape (readEscape_unit (by omega) after rest)
    · simp only [if_neg hcontrol]
      refine readChars_plain ?_ ?_ hcontrol (after :: rest)
      · intro heq
        subst heq
        simp [shortEscape?] at hshort
      · intro heq
        subst heq
        simp [shortEscape?] at hshort

/-- The escapes that leave ASCII only can be read. -/
theorem isReadable_escapeAscii : IsReadable escapeAscii := by
  intro opening c after rest
  unfold escapeAscii
  cases hshort : shortEscape? c with
  | some e => exact readChars_escape (readEscape_short hshort (after :: rest))
  | none =>
    by_cases hprintable : 0x20 ≤ c.toNat ∧ c.toNat < 0x7f
    · simp only [if_pos hprintable]
      refine readChars_plain ?_ ?_ (by omega) (after :: rest)
      · intro heq
        subst heq
        simp [shortEscape?] at hshort
      · intro heq
        subst heq
        simp [shortEscape?] at hshort
    · by_cases hunit : c.toNat < 0x10000
      · simp only [if_neg hprintable, if_pos hunit]
        exact readChars_escape (readEscape_unit hunit after rest)
      · simp only [if_neg hprintable, if_neg hunit]
        exact readChars_escape (readEscape_pair hunit after rest)

/-- Escaping leaves no control characters. -/
theorem not_control_escapeRaw {c d : Char} (h : d ∈ escapeRaw c) : 0x20 ≤ d.toNat := by
  have hdigit : ∀ m, m < 16 → 0x20 ≤ (Text.hexDigit m).toNat := by decide
  unfold escapeRaw at h
  cases hshort : shortEscape? c with
  | some e =>
    have he : 0x20 ≤ e.toNat := by
      unfold shortEscape? at hshort
      repeat' split at hshort
      all_goals cases hshort
      all_goals decide
    simp only [hshort, List.mem_cons, List.not_mem_nil, or_false] at h
    rcases h with rfl | rfl
    · decide
    · exact he
  | none =>
    simp only [hshort] at h
    split at h
    · simp only [escapeUnit, Text.hexDigits, List.nil_append, List.cons_append, List.mem_cons,
        List.not_mem_nil, or_false] at h
      rcases h with rfl | rfl | rfl | rfl | rfl | rfl
      · decide
      · decide
      all_goals exact hdigit _ (Nat.mod_lt _ (by decide))
    · next hplain =>
      rw [List.mem_singleton.1 h]
      omega

/-! Whole strings. -/

/-- Escaped characters are read back up to the closing quote. -/
theorem readChars_flatMap {escape : Char → List Char} (h : IsReadable escape)
    (opening cs rest : List Char) :
    readChars opening (cs.flatMap escape ++ '"' :: rest) = .ok (cs, rest) := by
  induction cs with
  | nil =>
    rw [List.flatMap_nil, List.nil_append, readChars]
  | cons c cs ih =>
    have hbehind : ∃ after more, cs.flatMap escape ++ '"' :: rest = after :: more := by
      cases cs.flatMap escape with
      | nil => exact ⟨_, _, rfl⟩
      | cons d ds => exact ⟨_, _, rfl⟩
    obtain ⟨after, more, heq⟩ := hbehind
    rw [heq] at ih
    rw [List.flatMap_cons, List.append_assoc, heq, h, ih]

/-- **Strings come back.**  A quoted string is read as the string that was quoted, whatever
its characters are and whatever stands behind it. -/
theorem readString_quoteWith {escape : Char → List Char} (h : IsReadable escape) (s : String)
    (rest : List Char) :
    readString (s.toList.flatMap escape ++ '"' :: rest) = .ok (s, rest) := by
  rw [readString, readChars_flatMap h]
  simp

end TaskTree.Json
