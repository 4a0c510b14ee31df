import TaskTree.Json.Reader

/-!
# Whole numbers that are too long

A whole number with more digits than are read is the one refusal of a text that is no fault of the
text.  The reader goes through a text from its front to its end, and what it leaves is always an end
of what it was given (`Sees`).  So if a text is refused in this way, that many digits stand in a row
in it (`hasRun_of_read`), and a text without such a row is read or found at fault.
-/

namespace TaskTree.Json

/-- So many digits stand in a row in a text. -/
def HasRun (count : Nat) (cs : List Char) : Prop :=
  ∃ front digits rest, cs = front ++ digits ++ rest ∧ digits.length = count ∧
    ∀ c ∈ digits, Numeral.isDigit c = true

/-- Digits in the end of a text are digits in the text. -/
theorem HasRun.of_suffix {count : Nat} {cs later : List Char} (h : HasRun count later)
    (hlater : later <:+ cs) : HasRun count cs := by
  obtain ⟨before, rfl⟩ := hlater
  obtain ⟨front, digits, rest, rfl, hcount, hdigits⟩ := h
  exact ⟨before ++ front, digits, rest, by simp, hcount, hdigits⟩

/-- A reader that was given a text leaves an end of it.  If it refuses a number as too long, the
digits of that number stand in the text. -/
structure Sees {α : Type} (cs : List Char) (result : Read α) : Prop where
  leaves : ∀ {a rest}, result = .ok (a, rest) → rest <:+ cs
  long : ∀ {count}, result = .error (.longInteger count) →
    Numeral.maxDigits < count ∧ HasRun count cs

variable {α β : Type} {cs later rest : List Char}

/-- A text that is refused for a defect leaves nothing and has no long number. -/
theorem Sees.fault (defect : Defect) (place : List Char) :
    Sees cs (Json.fault defect place : Read α) where
  leaves := fun h => by cases h
  long := fun h => by cases h

/-- A text that is refused as too deep leaves nothing and has no long number. -/
theorem Sees.deep (nesting : Nesting) : Sees cs (.error (.deep nesting) : Read α) where
  leaves := fun h => by cases h
  long := fun h => by cases h

/-- Whoever finds something and leaves an end of the text sees it. -/
theorem Sees.found {a : α} (h : rest <:+ cs) : Sees cs (.ok (a, rest) : Read α) where
  leaves := fun heq => by
    cases heq
    exact h
  long := fun heq => by cases heq

/-- What is refused later on is refused. -/
theorem Sees.refused {result : Read α} (h : Sees later result) {refusal : Refusal}
    (heq : result = .error refusal) (hlater : later <:+ cs) :
    Sees cs (.error refusal : Read β) where
  leaves := fun hok => by cases hok
  long := fun herror => by
    cases herror
    obtain ⟨hcount, hrun⟩ := h.long heq
    exact ⟨hcount, hrun.of_suffix hlater⟩

theorem Sees.mono {result : Read α} (h : Sees later result) (hlater : later <:+ cs) :
    Sees cs result where
  leaves := fun heq => (h.leaves heq).trans hlater
  long := fun heq => ⟨(h.long heq).1, (h.long heq).2.of_suffix hlater⟩

/-- What is left after blanks is an end of the text. -/
theorem skip_suffix (cs : List Char) : skip cs <:+ cs :=
  List.dropWhile_suffix _

/-! Strings. -/

/-- What is left after the low half of a pair is an end of the text. -/
theorem lowHalf_suffix {low : Nat} (h : lowHalf cs = .ok (some (low, rest))) : rest <:+ cs := by
  unfold lowHalf at h
  split at h
  · split at h
    · cases h
    · split at h
      · cases h
        exact List.suffix_append [_, _, _, _, _, _] _
      · cases h
  · cases h

/-- The reader of escapes by number leaves an end of the text. -/
theorem sees_unicodeEscape (cs : List Char) : Sees cs (unicodeEscape cs) := by
  unfold unicodeEscape
  split
  · next a b c d after rest =>
    have hafter : after :: rest <:+ 'u' :: a :: b :: c :: d :: after :: rest :=
      List.suffix_append ['u', a, b, c, d] _
    split
    · exact .fault ..
    · split
      · split
        · next refusal hlow =>
          unfold lowHalf at hlow
          split at hlow
          · split at hlow
            · cases hlow
              exact .fault ..
            · cases hlow
          · cases hlow
        · next hlow => exact .found ((lowHalf_suffix hlow).trans hafter)
        · exact .found hafter
      · exact .found hafter
  · exact .fault ..

/-- The reader of escapes leaves an end of the text. -/
theorem sees_readEscape (opening cs : List Char) : Sees cs (readEscape opening cs) := by
  unfold readEscape
  split
  · exact .fault ..
  · exact sees_unicodeEscape _
  · split
    · exact .found (List.suffix_cons ..)
    · exact .fault ..

/-- The reader of characters leaves an end of the text. -/
theorem sees_readChars (opening cs : List Char) : Sees cs (readChars opening cs) := by
  fun_induction readChars opening cs with
  | case1 => exact .fault ..
  | case2 rest => exact .found (List.suffix_cons ..)
  | case3 rest refusal hescape =>
    exact (sees_readEscape opening rest).refused hescape (List.suffix_cons ..)
  | case4 rest c rest' hescape refusal hchars ih =>
    have hrest := (sees_readEscape opening rest).leaves hescape
    exact ih.refused hchars (hrest.trans (List.suffix_cons ..))
  | case5 rest c rest' hescape cs rest'' hchars ih =>
    have hrest := (sees_readEscape opening rest).leaves hescape
    exact .found ((ih.leaves hchars).trans (hrest.trans (List.suffix_cons ..)))
  | case6 => exact .fault ..
  | case7 c rest _ _ _ refusal hchars ih => exact ih.refused hchars (List.suffix_cons ..)
  | case8 c rest _ _ _ cs rest' hchars ih =>
    exact .found ((ih.leaves hchars).trans (List.suffix_cons ..))

/-- The reader of strings leaves an end of the text. -/
theorem sees_readString (cs : List Char) : Sees cs (readString cs) := by
  have hchars := sees_readChars ('"' :: cs) cs
  unfold readString
  split
  · next heq => exact hchars.refused heq (List.suffix_refl _)
  · next heq => exact .found (hchars.leaves heq)

/-! Numbers and words. -/

/-- The digits of a whole number come first, and what is left comes after them. -/
theorem readWhole_split {whole : List Char} (h : readWhole cs = some (whole, rest)) :
    cs = whole ++ rest ∧ ∀ c ∈ whole, Numeral.isDigit c = true := by
  unfold readWhole at h
  split at h
  · cases h
    refine ⟨rfl, fun c hc => ?_⟩
    rw [List.mem_singleton.1 hc]
    rfl
  · simp only at h
    split at h
    · cases h
    · cases h
      exact ⟨List.takeWhile_append_dropWhile.symm, List.all_eq_true.1 List.all_takeWhile⟩

/-- What is left after a fraction is an end of the text. -/
theorem readFraction_suffix {digits : List Char} (h : readFraction cs = some (digits, rest)) :
    rest <:+ cs := by
  unfold readFraction at h
  split at h
  · split at h
    · cases h
      exact (List.dropWhile_suffix _).trans (List.suffix_cons ..)
    · cases h
  · cases h

/-- What is left after a sign is an end of the text. -/
theorem splitSign_suffix (cs : List Char) : (Numeral.splitSign cs).2 <:+ cs := by
  unfold Numeral.splitSign
  split
  · exact List.suffix_cons ..
  · exact List.suffix_cons ..
  · exact List.suffix_refl _

/-- What is left after an exponent is an end of the text. -/
theorem readExponent_suffix {n : Int} (h : readExponent cs = some (n, rest)) : rest <:+ cs := by
  unfold readExponent at h
  split at h
  · split at h
    · simp only at h
      split at h
      · cases h
      · cases h
        exact (List.dropWhile_suffix _).trans
          ((splitSign_suffix _).trans (List.suffix_cons ..))
    · cases h
  · cases h

/-- Only the digits of a whole number are counted. -/
theorem numberOf_long {negative : Bool} {whole : List Char} {fraction : Option (List Char)}
    {exponent : Option Int} {count : Nat}
    (h : numberOf negative whole fraction exponent = .error (.longInteger count)) :
    Numeral.maxDigits < count ∧ whole.length = count := by
  unfold numberOf at h
  split at h
  · split at h
    · next hlong =>
      cases h
      exact ⟨hlong, rfl⟩
    · cases h
  · cases h

/-- A number, once its parts are found and `later` is the text after them. -/
theorem sees_numberOf {negative : Bool} {whole : List Char} (fraction : Option (List Char))
    (exponent : Option Int) (hdigits : ∀ c ∈ whole, Numeral.isDigit c = true)
    (hlater : later <:+ rest) :
    Sees (whole ++ rest)
      (match numberOf negative whole fraction exponent with
        | .error refusal => .error refusal
        | .ok v => .ok (v, later) : Read Json) := by
  cases hnumber : numberOf negative whole fraction exponent with
  | ok v => exact .found (hlater.trans (List.suffix_append ..))
  | error refusal =>
    refine ⟨fun heq => ?_, fun heq => ?_⟩
    · cases heq
    cases heq
    obtain ⟨hlong, hlength⟩ := numberOf_long hnumber
    exact ⟨hlong, [], whole, rest, rfl, hlength, hdigits⟩

/-- The reader of numbers refuses only a number whose digits stand in the text. -/
theorem sees_readNumber (negative : Bool) (start cs : List Char) :
    Sees cs (readNumber negative start cs) := by
  unfold readNumber
  cases hwhole : readWhole cs with
  | none => exact .fault ..
  | some pair =>
    obtain ⟨whole, rest⟩ := pair
    obtain ⟨rfl, hdigits⟩ := readWhole_split hwhole
    cases hfraction : readFraction rest with
    | none =>
      cases hexponent : readExponent rest with
      | none =>
        simp only [hfraction, hexponent]
        exact sees_numberOf none none hdigits (List.suffix_refl _)
      | some pair =>
        simp only [hfraction, hexponent]
        exact sees_numberOf none (some pair.1) hdigits (readExponent_suffix hexponent)
    | some pair =>
      have hrest := readFraction_suffix hfraction
      cases hexponent : readExponent pair.2 with
      | none =>
        simp only [hfraction, hexponent]
        exact sees_numberOf (some pair.1) none hdigits hrest
      | some pair' =>
        simp only [hfraction, hexponent]
        exact sees_numberOf (some pair.1) (some pair'.1) hdigits
          ((readExponent_suffix hexponent).trans hrest)

/-- What is left after a word is an end of the text. -/
theorem after?_suffix {word : List Char} (h : after? word cs = some rest) : rest <:+ cs := by
  fun_induction after? word cs with
  | case1 cs =>
    cases h
    exact List.suffix_refl _
  | case2 c word cs ih => exact (ih h).trans (List.suffix_cons ..)
  | case3 => cases h
  | case4 => cases h

/-- What is left after a constant is an end of the text. -/
theorem readWord_suffix {v : Json} (h : readWord cs = some (v, rest)) : rest <:+ cs := by
  obtain ⟨entry, -, hentry⟩ := List.exists_of_findSome?_eq_some h
  obtain ⟨later, hlater, heq⟩ := Option.map_eq_some_iff.1 hentry
  cases heq
  exact after?_suffix hlater

/-- The reader of values without others in them sees the text. -/
theorem sees_readPlain (cs : List Char) : Sees cs (readPlain cs) := by
  unfold readPlain
  split
  · next hword => exact .found (readWord_suffix hword)
  · split
    · exact (sees_readNumber true _ _).mono (List.suffix_cons ..)
    · exact sees_readNumber false cs cs

/-! Arrays, objects, and whole texts. -/

variable {value : List Char → Read Json}

/-- An end of an end of a text, with white space before it and one character. -/
theorem suffix_of_skip {c : Char} (h : skip later = c :: rest) (hlater : later <:+ cs) :
    rest <:+ cs := by
  have hskip : c :: rest <:+ later := h ▸ skip_suffix later
  exact (List.suffix_cons ..).trans (hskip.trans hlater)

/-- The reader of elements sees the text if that of values does. -/
theorem sees_readElements (hvalue : ∀ cs, Sees cs (value cs)) (fuel : Nat) (cs : List Char) :
    Sees cs (readElements value fuel cs) := by
  induction fuel generalizing cs with
  | zero => exact .fault ..
  | succ fuel ih =>
    unfold readElements
    cases hread : value cs with
    | error refusal => exact (hvalue cs).refused hread (List.suffix_refl _)
    | ok pair =>
      obtain ⟨v, rest⟩ := pair
      have hrest := (hvalue cs).leaves hread
      simp only
      split
      · next hskip => exact .found (suffix_of_skip hskip hrest)
      · next after hskip =>
        have hafter := (skip_suffix after).trans (suffix_of_skip hskip hrest)
        split
        · next hmore => exact (ih _).refused hmore hafter
        · next hmore => exact .found (((ih _).leaves hmore).trans hafter)
      · exact .fault ..

/-- The reader of members sees the text if that of values does. -/
theorem sees_readMembers (hvalue : ∀ cs, Sees cs (value cs)) (fuel : Nat) (cs : List Char) :
    Sees cs (readMembers value fuel cs) := by
  induction fuel generalizing cs with
  | zero => exact .fault ..
  | succ fuel ih =>
    unfold readMembers
    split
    · next rest =>
      split
      · next hname => exact (sees_readString rest).refused hname (List.suffix_cons ..)
      · next hname =>
        have hnamed := ((sees_readString rest).leaves hname).trans (List.suffix_cons '"' rest)
        split
        · next after hcolon =>
          have hafter := (skip_suffix after).trans (suffix_of_skip hcolon hnamed)
          split
          · next hread => exact (hvalue _).refused hread hafter
          · next hread =>
            have hrest := ((hvalue _).leaves hread).trans hafter
            split
            · next hskip => exact .found (suffix_of_skip hskip hrest)
            · next more hskip =>
              have hmore := (skip_suffix more).trans (suffix_of_skip hskip hrest)
              split
              · next hread => exact (ih _).refused hread hmore
              · next hread => exact .found (((ih _).leaves hread).trans hmore)
            · exact .fault ..
        · exact .fault ..
    · exact .fault ..

/-- The reader of values sees the text, by induction on the nesting that is left to it. -/
theorem sees_readValue (depth : Nat) (cs : List Char) : Sees cs (readValue depth cs) := by
  induction depth using Nat.strongRecOn generalizing cs with
  | ind depth ih =>
    unfold readValue
    split
    · next rest =>
      split
      · next hstring => exact (sees_readString rest).refused hstring (List.suffix_cons ..)
      · next hstring =>
        exact .found (((sees_readString rest).leaves hstring).trans (List.suffix_cons ..))
    · exact .deep _
    · exact .deep _
    · next depth rest =>
      have hrest := List.suffix_cons '[' rest
      split
      · next hskip => exact .found (suffix_of_skip hskip hrest)
      · have hskip := (skip_suffix rest).trans hrest
        have helements := sees_readElements (ih depth (Nat.lt_succ_self depth))
        split
        · next hread => exact (helements _ _).refused hread hskip
        · next hread => exact .found (((helements _ _).leaves hread).trans hskip)
    · next depth rest =>
      have hrest := List.suffix_cons '\x7b' rest
      split
      · next hskip => exact .found (suffix_of_skip hskip hrest)
      · have hskip := (skip_suffix rest).trans hrest
        have hmembers := sees_readMembers (ih depth (Nat.lt_succ_self depth))
        split
        · next hread => exact (hmembers _ _).refused hread hskip
        · next hread => exact .found (((hmembers _ _).leaves hread).trans hskip)
    · exact sees_readPlain _

/-- **A number that is too long stands in the text.** -/
theorem hasRun_of_read {depth count : Nat} (h : read depth cs = .error (.longInteger count)) :
    Numeral.maxDigits < count ∧ HasRun count cs := by
  unfold read at h
  split at h
  · cases h
  · unfold readAll at h
    split at h
    · next hread =>
      cases h
      exact ((sees_readValue depth _).mono (skip_suffix _)).long hread
    · split at h
      · cases h
      · cases h

/-! Numbers that are too long and nothing else. -/

/-- A row of ones is read as a whole number. -/
theorem readWhole_ones (n : Nat) :
    readWhole (List.replicate (n + 1) '1') = some (List.replicate (n + 1) '1', []) := by
  have hone : Numeral.isDigit '1' = true := rfl
  have htake : (List.replicate (n + 1) '1').takeWhile Numeral.isDigit =
      List.replicate (n + 1) '1' := by
    rw [List.takeWhile_replicate, if_pos hone]
  have hdrop : (List.replicate (n + 1) '1').dropWhile Numeral.isDigit = [] := by
    rw [List.dropWhile_replicate, if_pos hone]
  unfold readWhole
  split
  · next hzero => cases hzero
  · rw [htake, hdrop]
    rfl

/-- Ones alone, too many of them, are a whole number that is too long. -/
theorem read_ones {n : Nat} (depth : Nat) (h : Numeral.maxDigits ≤ n) :
    read depth (List.replicate (n + 1) '1') = .error (.longInteger (n + 1)) := by
  have hnumber : readNumber false (List.replicate (n + 1) '1') (List.replicate (n + 1) '1') =
      .error (.longInteger (n + 1)) := by
    have hlong : Numeral.maxDigits < n + 1 := Nat.lt_succ_of_le h
    simp only [readNumber, readWhole_ones, readFraction, readExponent, numberOf, and_self, if_true,
      List.length_replicate, if_pos hlong]
  have hvalue : readValue depth (List.replicate (n + 1) '1') = .error (.longInteger (n + 1)) := by
    rw [← hnumber]
    cases depth <;> rfl
  have hskip : skip (List.replicate (n + 1) '1') = List.replicate (n + 1) '1' := rfl
  have hread : read depth (List.replicate (n + 1) '1') =
      readAll depth (List.replicate (n + 1) '1') := rfl
  rw [hread, readAll, hskip, hvalue]

end TaskTree.Json
