import TaskTree.Text.Position
import TaskTree.Text.Utf8

/-!
# Written bytes are read back

The bytes of a character start with the one that announces how many follow, and
each of the others adds six bits (`lead_encode`).  So any text comes back from
its bytes (`decode_encode`), and bytes are read as no text but the one whose bytes they are
(`eq_encode_of_decode`).  A text file has its line ends folded when it is
read, which does nothing to a text without carriage returns.
-/

namespace TaskTree

namespace Utf8

/-- A number below 256 is a byte. -/
theorem toNat_ofNat {n : Nat} (h : n < 256) : (UInt8.ofNat n).toNat = n := by
  rw [UInt8.toNat_ofNat']
  exact Nat.mod_eq_of_lt h

/-- A continuation byte between its bounds adds its six bits to the value. -/
theorem readTail_succ {owed low high seen value n : Nat} (hn : n < 256) (hlow : low ≤ n)
    (hhigh : n ≤ high) (rest : List UInt8) :
    readTail (owed + 1) low high seen value (UInt8.ofNat n :: rest) =
      readTail owed 0x80 0xbf (seen + 1) (64 * value + n % 64) rest := by
  rw [readTail, toNat_ofNat hn, if_pos ⟨hlow, hhigh⟩]

/-- A first byte that continuation bytes follow. -/
theorem lead_of_shape {n owed low high : Nat} (hn : n < 256) (hwide : 0x80 ≤ n)
    (hshape : tailShape n = some (owed, low, high)) (rest : List UInt8) :
    lead (UInt8.ofNat n) rest = readTail owed low high 1 (leadBits owed n) rest := by
  have hbig : ¬ n < 0x80 := by omega
  rw [lead, toNat_ofNat hn, if_neg hbig, hshape]

/-- The code points, which leave out the surrogates. -/
theorem toNat_valid (c : Char) : c.toNat < 0xd800 ∨ (0xdfff < c.toNat ∧ c.toNat < 0x110000) :=
  c.valid

/-- The shape of the two bytes of a code point. -/
theorem tailShape_two {v : Nat} (h : 0x7f < v) (h' : v ≤ 0x7ff) :
    tailShape (v / 64 % 0x20 + 0xc0) = some (1, 0x80, 0xbf) := by
  have hfirst : 0xc2 ≤ v / 64 % 0x20 + 0xc0 ∧ v / 64 % 0x20 + 0xc0 ≤ 0xdf := by omega
  rw [tailShape, if_pos hfirst]

/-- The shape of the three bytes of a code point: the one behind the first keeps out what fits
into two bytes, and the surrogates. -/
theorem tailShape_three {v : Nat} (h : 0x7ff < v) (h' : v ≤ 0xffff)
    (hvalid : v < 0xd800 ∨ 0xdfff < v) :
    ∃ low high, tailShape (v / 4096 % 0x10 + 0xe0) = some (2, low, high) ∧
      low ≤ v / 64 % 0x40 + 0x80 ∧ v / 64 % 0x40 + 0x80 ≤ high := by
  unfold tailShape
  have hnot : ¬ (0xc2 ≤ v / 4096 % 0x10 + 0xe0 ∧ v / 4096 % 0x10 + 0xe0 ≤ 0xdf) := by omega
  rw [if_neg hnot]
  by_cases he0 : v / 4096 % 0x10 + 0xe0 = 0xe0
  · rw [if_pos he0]
    exact ⟨0xa0, 0xbf, rfl, by omega, by omega⟩
  · rw [if_neg he0]
    by_cases hed : v / 4096 % 0x10 + 0xe0 = 0xed
    · rw [if_pos hed]
      exact ⟨0x80, 0x9f, rfl, by omega, by omega⟩
    · have hmid : 0xe1 ≤ v / 4096 % 0x10 + 0xe0 ∧ v / 4096 % 0x10 + 0xe0 ≤ 0xef := by omega
      rw [if_neg hed, if_pos hmid]
      exact ⟨0x80, 0xbf, rfl, by omega, by omega⟩

/-- The shape of the four bytes of a code point: the one behind the first keeps out what fits
into three bytes, and what lies beyond the last code point. -/
theorem tailShape_four {v : Nat} (h : 0xffff < v) (h' : v < 0x110000) :
    ∃ low high, tailShape (v / 262144 % 0x08 + 0xf0) = some (3, low, high) ∧
      low ≤ v / 4096 % 0x40 + 0x80 ∧ v / 4096 % 0x40 + 0x80 ≤ high := by
  have hfirst : v / 262144 ≤ 4 := by omega
  unfold tailShape
  have hnot : ¬ (0xc2 ≤ v / 262144 % 0x08 + 0xf0 ∧ v / 262144 % 0x08 + 0xf0 ≤ 0xdf) := by omega
  have hnot' : ¬ (0xe1 ≤ v / 262144 % 0x08 + 0xf0 ∧ v / 262144 % 0x08 + 0xf0 ≤ 0xef) := by omega
  have he0 : ¬ v / 262144 % 0x08 + 0xf0 = 0xe0 := by omega
  have hed : ¬ v / 262144 % 0x08 + 0xf0 = 0xed := by omega
  rw [if_neg hnot, if_neg he0, if_neg hed, if_neg hnot']
  by_cases hf0 : v / 262144 % 0x08 + 0xf0 = 0xf0
  · rw [if_pos hf0]
    exact ⟨0x90, 0xbf, rfl, by omega, by omega⟩
  · rw [if_neg hf0]
    by_cases hf4 : v / 262144 % 0x08 + 0xf0 = 0xf4
    · rw [if_pos hf4]
      exact ⟨0x80, 0x8f, rfl, by omega, by omega⟩
    · have hmid : 0xf1 ≤ v / 262144 % 0x08 + 0xf0 ∧ v / 262144 % 0x08 + 0xf0 ≤ 0xf3 := by omega
      rw [if_neg hf4, if_pos hmid]
      exact ⟨0x80, 0xbf, rfl, by omega, by omega⟩

/-- The bytes of a character are read as that character, whatever stands behind them. -/
theorem lead_encode (c : Char) (rest : List UInt8) :
    ∃ b more, String.utf8EncodeChar c = b :: more ∧
      lead b (more ++ rest) = .char c (more.length + 1) := by
  have hvalid := toNat_valid c
  have hchar : ∀ n, n = c.toNat → Char.ofNat n = c := fun n hn => by rw [hn, Char.ofNat_toNat]
  unfold String.utf8EncodeChar
  have htoNat : c.val.toNat = c.toNat := rfl
  rw [htoNat]
  generalize hv : c.toNat = v at hvalid hchar
  by_cases h1 : v ≤ 0x7f
  · have hsmall : v < 0x80 := by omega
    simp only [if_pos h1]
    refine ⟨_, _, rfl, ?_⟩
    rw [lead, toNat_ofNat (by omega), if_pos hsmall, hchar v rfl]
    rfl
  by_cases h2 : v ≤ 0x7ff
  · simp only [if_neg h1, if_pos h2]
    refine ⟨_, _, rfl, ?_⟩
    rw [lead_of_shape (by omega) (by omega) (tailShape_two (by omega) h2), List.cons_append,
      readTail_succ (by omega) (by omega) (by omega), readTail, hchar _ ?_]
    · rfl
    · rw [leadBits, if_pos rfl]
      omega
  by_cases h3 : v ≤ 0xffff
  · simp only [if_neg h1, if_neg h2, if_pos h3]
    refine ⟨_, _, rfl, ?_⟩
    obtain ⟨low, high, hshape, hlow, hhigh⟩ := tailShape_three (by omega) h3 (by omega)
    rw [lead_of_shape (by omega) (by omega) hshape, List.cons_append,
      readTail_succ (by omega) hlow hhigh, List.cons_append,
      readTail_succ (by omega) (by omega) (by omega), readTail, hchar _ ?_]
    · rfl
    · rw [leadBits, if_neg (by decide), if_pos rfl]
      omega
  · simp only [if_neg h1, if_neg h2, if_neg h3]
    refine ⟨_, _, rfl, ?_⟩
    obtain ⟨low, high, hshape, hlow, hhigh⟩ := @tailShape_four v (by omega) (by omega)
    rw [lead_of_shape (by omega) (by omega) hshape, List.cons_append,
      readTail_succ (by omega) hlow hhigh, List.cons_append,
      readTail_succ (by omega) (by omega) (by omega), List.cons_append,
      readTail_succ (by omega) (by omega) (by omega), readTail, hchar _ ?_]
    · rfl
    · rw [leadBits, if_neg (by decide), if_neg (by decide)]
      omega

/-- One character with the bytes behind it. -/
theorem decodeFrom_encode_cons {passing : Bool} (offset : Nat) (c : Char) {rest : List UInt8}
    {cs : List Char} (h : ∀ offset, decodeFrom passing offset rest = .ok cs) :
    decodeFrom passing offset (String.utf8EncodeChar c ++ rest) = .ok (c :: cs) := by
  obtain ⟨b, more, hbytes, hlead⟩ := lead_encode c rest
  have hdrop : (more ++ rest).drop (more.length + 1 - 1) = rest := List.drop_left ..
  rw [hbytes, List.cons_append, decodeFrom, hlead]
  simp only [hdrop, h]

/-- Decoding gives back the characters that were encoded, from any offset. -/
theorem decodeFrom_encode (passing : Bool) (offset : Nat) (cs : List Char) :
    decodeFrom passing offset (cs.flatMap String.utf8EncodeChar) = .ok cs := by
  induction cs generalizing offset with
  | nil => rw [List.flatMap_nil, decodeFrom]
  | cons c cs ih =>
    rw [List.flatMap_cons]
    exact decodeFrom_encode_cons offset c ih

/-- **Texts come back from their bytes.** -/
theorem decode_encode (s : String) : decode (encode s) = .ok s.toList :=
  decodeFrom_encode false 0 s.toList

/-- Text that was encoded is decoded, also by a reader that lets surrogates pass. -/
theorem decodePassing_encode (s : String) : decodePassing (encode s) = .ok s.toList :=
  decodeFrom_encode true 0 s.toList

/-! What is read as a character is what that character is written as. -/

/-- The bytes of the shapes there are.  The byte behind the first keeps out what fits into fewer
bytes, the surrogates, and what lies beyond the last code point. -/
theorem bounds_of_tailShape {b owed low high : Nat} (h : tailShape b = some (owed, low, high)) :
    (owed = 1 ∧ 0xc2 ≤ b ∧ b ≤ 0xdf ∧ 0x80 ≤ low ∧ high ≤ 0xbf) ∨
    (owed = 2 ∧ 0xe0 ≤ b ∧ b ≤ 0xef ∧ 0x80 ≤ low ∧ high ≤ 0xbf ∧ (b = 0xe0 → 0xa0 ≤ low) ∧
        (b = 0xed → high ≤ 0x9f)) ∨
    (owed = 3 ∧ 0xf0 ≤ b ∧ b ≤ 0xf4 ∧ 0x80 ≤ low ∧ high ≤ 0xbf ∧ (b = 0xf0 → 0x90 ≤ low) ∧
        (b = 0xf4 → high ≤ 0x8f)) := by
  unfold tailShape at h
  repeat' split at h
  all_goals cases h
  all_goals omega

/-- A continuation byte that is owed is there, between its bounds. -/
theorem exists_of_readTail {owed low high seen value size : Nat} {bytes : List UInt8} {c : Char}
    (h : readTail (owed + 1) low high seen value bytes = .char c size) :
    ∃ b rest, bytes = b :: rest ∧ low ≤ b.toNat ∧ b.toNat ≤ high ∧
      readTail owed 0x80 0xbf (seen + 1) (64 * value + b.toNat % 64) rest = .char c size := by
  cases bytes with
  | nil => cases h
  | cons b rest =>
    rw [readTail] at h
    split at h
    · next hb => exact ⟨b, rest, rfl, hb.1, hb.2, h⟩
    · cases h

/-- A byte is made of its own number. -/
theorem ofNat_eq {n : Nat} {b : UInt8} (h : n = b.toNat) : UInt8.ofNat n = b := by
  rw [h, UInt8.ofNat_toNat]

/-- A number that is no surrogate and not too large is a character. -/
theorem toNat_ofNat_of_valid {n : Nat} (h : n < 0xd800 ∨ 0xdfff < n ∧ n < 0x110000) :
    (Char.ofNat n).val.toNat = n := by
  rw [Char.ofNat, dif_pos h]
  rfl

/-- A byte below 128 is a character on its own. -/
theorem encodeChar_one {b : UInt8} (h : b.toNat < 0x80) :
    String.utf8EncodeChar (Char.ofNat b.toNat) = [b] := by
  unfold String.utf8EncodeChar
  rw [toNat_ofNat_of_valid (by omega)]
  simp only [if_pos (show b.toNat ≤ 0x7f by omega)]
  rw [UInt8.ofNat_toNat]

/-- A two-byte start and one byte to follow encode the character they spell. -/
theorem encodeChar_two {b b₁ : UInt8} (h : 0xc2 ≤ b.toNat ∧ b.toNat ≤ 0xdf)
    (h₁ : 0x80 ≤ b₁.toNat ∧ b₁.toNat ≤ 0xbf) :
    String.utf8EncodeChar (Char.ofNat (64 * (b.toNat % 32) + b₁.toNat % 64)) = [b, b₁] := by
  unfold String.utf8EncodeChar
  rw [toNat_ofNat_of_valid (by omega)]
  generalize hv : 64 * (b.toNat % 32) + b₁.toNat % 64 = v
  have hone : ¬ v ≤ 0x7f := by omega
  have htwo : v ≤ 0x7ff := by omega
  simp only [if_neg hone, if_pos htwo]
  rw [@ofNat_eq _ b (by omega), @ofNat_eq _ b₁ (by omega)]

/-- A three-byte start and two bytes to follow encode the character they spell, if it is not
overlong and no surrogate. -/
theorem encodeChar_three {b b₁ b₂ : UInt8} (h : 0xe0 ≤ b.toNat ∧ b.toNat ≤ 0xef)
    (h₁ : 0x80 ≤ b₁.toNat ∧ b₁.toNat ≤ 0xbf) (h₂ : 0x80 ≤ b₂.toNat ∧ b₂.toNat ≤ 0xbf)
    (hlong : b.toNat = 0xe0 → 0xa0 ≤ b₁.toNat) (hvalid : b.toNat = 0xed → b₁.toNat ≤ 0x9f) :
    String.utf8EncodeChar
        (Char.ofNat (64 * (64 * (b.toNat % 16) + b₁.toNat % 64) + b₂.toNat % 64)) =
      [b, b₁, b₂] := by
  unfold String.utf8EncodeChar
  rw [toNat_ofNat_of_valid (by omega)]
  generalize hv : 64 * (64 * (b.toNat % 16) + b₁.toNat % 64) + b₂.toNat % 64 = v
  have hone : ¬ v ≤ 0x7f := by omega
  have htwo : ¬ v ≤ 0x7ff := by omega
  have hthree : v ≤ 0xffff := by omega
  simp only [if_neg hone, if_neg htwo, if_pos hthree]
  rw [@ofNat_eq _ b (by omega), @ofNat_eq _ b₁ (by omega), @ofNat_eq _ b₂ (by omega)]

/-- A four-byte start and three bytes to follow encode the character they spell, if it is not
overlong and not too large. -/
theorem encodeChar_four {b b₁ b₂ b₃ : UInt8} (h : 0xf0 ≤ b.toNat ∧ b.toNat ≤ 0xf4)
    (h₁ : 0x80 ≤ b₁.toNat ∧ b₁.toNat ≤ 0xbf) (h₂ : 0x80 ≤ b₂.toNat ∧ b₂.toNat ≤ 0xbf)
    (h₃ : 0x80 ≤ b₃.toNat ∧ b₃.toNat ≤ 0xbf) (hlong : b.toNat = 0xf0 → 0x90 ≤ b₁.toNat)
    (hvalid : b.toNat = 0xf4 → b₁.toNat ≤ 0x8f) :
    String.utf8EncodeChar (Char.ofNat
        (64 * (64 * (64 * (b.toNat % 8) + b₁.toNat % 64) + b₂.toNat % 64) + b₃.toNat % 64)) =
      [b, b₁, b₂, b₃] := by
  unfold String.utf8EncodeChar
  rw [toNat_ofNat_of_valid (by omega)]
  generalize hv :
    64 * (64 * (64 * (b.toNat % 8) + b₁.toNat % 64) + b₂.toNat % 64) + b₃.toNat % 64 = v
  have hone : ¬ v ≤ 0x7f := by omega
  have htwo : ¬ v ≤ 0x7ff := by omega
  have hthree : ¬ v ≤ 0xffff := by omega
  simp only [if_neg hone, if_neg htwo, if_neg hthree]
  rw [@ofNat_eq _ b (by omega), @ofNat_eq _ b₁ (by omega), @ofNat_eq _ b₂ (by omega),
    @ofNat_eq _ b₃ (by omega)]

/-- What is read as a character is the bytes of that character. -/
theorem eq_encode_of_lead {b : UInt8} {rest : List UInt8} {c : Char} {size : Nat}
    (h : lead b rest = .char c size) :
    b :: rest = String.utf8EncodeChar c ++ rest.drop (size - 1) := by
  unfold lead at h
  split at h
  · next hsmall =>
    cases h
    rw [encodeChar_one hsmall]
    rfl
  · split at h
    · cases h
    · next owed low high hshape =>
      rcases bounds_of_tailShape hshape with
        ⟨rfl, hb, hb', hlow, hhigh⟩ | ⟨rfl, hb, hb', hlow, hhigh, hlong, hvalid⟩ |
          ⟨rfl, hb, hb', hlow, hhigh, hlong, hvalid⟩
      · obtain ⟨b₁, rest, rfl, h₁, h₁', h⟩ := exists_of_readTail h
        cases h
        rw [leadBits, if_pos rfl, encodeChar_two ⟨hb, hb'⟩ ⟨by omega, by omega⟩]
        rfl
      · obtain ⟨b₁, rest, rfl, h₁, h₁', h⟩ := exists_of_readTail h
        obtain ⟨b₂, rest, rfl, h₂, h₂', h⟩ := exists_of_readTail h
        cases h
        rw [leadBits, if_neg (by decide), if_pos rfl, encodeChar_three ⟨hb, hb'⟩
          ⟨by omega, by omega⟩ ⟨h₂, h₂'⟩ (by omega) (by omega)]
        rfl
      · obtain ⟨b₁, rest, rfl, h₁, h₁', h⟩ := exists_of_readTail h
        obtain ⟨b₂, rest, rfl, h₂, h₂', h⟩ := exists_of_readTail h
        obtain ⟨b₃, rest, rfl, h₃, h₃', h⟩ := exists_of_readTail h
        cases h
        rw [leadBits, if_neg (by decide), if_neg (by decide), encodeChar_four ⟨hb, hb'⟩
          ⟨by omega, by omega⟩ ⟨h₂, h₂'⟩ ⟨h₃, h₃'⟩ (by omega) (by omega)]
        rfl

/-- **Only the bytes of a text are read as that text.** -/
theorem eq_encode_of_decode {bytes : List UInt8} {cs : List Char} (h : decode bytes = .ok cs) :
    bytes = encode (String.ofList cs) := by
  rw [encode, String.toList_ofList]
  unfold decode at h
  generalize 0 = offset at h
  fun_induction decodeFrom false offset bytes generalizing cs with
  | case1 offset =>
    cases h
    rfl
  | case2 => cases h
  | case3 offset b rest defect count hlead hpassing => cases hpassing
  | case4 => cases h
  | case5 => cases h
  | case6 offset b rest c size hlead cs' hrest ih =>
    cases h
    rw [List.flatMap_cons, ← ih hrest]
    exact eq_encode_of_lead hlead

end Utf8

namespace Text

/-- Without carriage returns there are no line ends to fold. -/
theorem foldLineEnds_eq_self {cs : List Char} (h : '\r' ∉ cs) : foldLineEnds cs = cs := by
  induction cs with
  | nil => rfl
  | cons c rest ih =>
    have hc : '\r' ≠ c := List.ne_of_not_mem_cons h
    have hrest : '\r' ∉ rest := List.not_mem_of_not_mem_cons h
    rw [foldLineEnds.eq_def]
    split
    · next heq => cases heq
    · next heq => cases heq; exact (hc rfl).elim
    · next heq => cases heq; exact (hc rfl).elim
    · next heq => cases heq; rw [ih hrest]

end Text

end TaskTree
