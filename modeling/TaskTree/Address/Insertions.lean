import TaskTree.Text.Ranges
import TaskTree.Text.Split

/-!
# Characters beyond ASCII as insertions

A text with characters beyond ASCII is written in ASCII: first its plain
characters, then, in the order of their code points, where each of the others
is to be inserted.  The distance from one insertion to the next is a number of
base 36 whose digits tell by their size where it ends; how large a last digit
may be adapts to the distances that came before.  Reading undoes this; it can
end in code points that no character has.
-/

namespace TaskTree.Insertions

/-- A digit of base 36: the letters, and then the decimal digits. -/
def digit (n : Nat) : Char :=
  if n < 26 then Char.ofNat (97 + n) else Char.ofNat (22 + n)

/-- The value of a digit of base 36. -/
def digitValue? (c : Char) : Option Nat :=
  if 'a' ≤ c ∧ c ≤ 'z' then some (c.toNat - 97)
  else if 'A' ≤ c ∧ c ≤ 'Z' then some (c.toNat - 65)
  else if '0' ≤ c ∧ c ≤ '9' then some (c.toNat - 22)
  else none

/-- A written digit reads back as its value. -/
theorem digitValue?_digit : ∀ n, n < 36 → digitValue? (digit n) = some n := by
  decide

/-- The smallest digit that is not the last one, `weight` being 36 for the first digit and
36 more for each that follows. -/
def threshold (bias weight : Nat) : Nat :=
  if weight ≤ bias then 1 else if bias + 26 ≤ weight then 26 else weight - bias

/-- A threshold is never zero. -/
theorem threshold_pos (bias weight : Nat) : 0 < threshold bias weight := by
  unfold threshold
  split
  · omega
  · split <;> omega

/-- Make a distance small, and count the digits that this takes. -/
def settle (distance weight : Nat) : Nat :=
  if h : 455 < distance then settle (distance / 35) (weight + 36)
  else weight + 36 * distance / (distance + 38)
termination_by distance
decreasing_by exact Nat.div_lt_self (by omega) (by omega)

/-- The bias after a distance, which was the first one or a later one, in a text that has
`length` characters by now. -/
def adapt (isFirst : Bool) (distance length : Nat) : Nat :=
  let damped := if isFirst then distance / 700 else distance / 2
  settle (damped + damped / length) 0

/-- The bias that the first distance is written with. -/
def firstBias : Nat := 72

/-! ## Writing -/

/-- The digits of a distance. -/
def digits (bias weight distance : Nat) : List Char :=
  if distance < threshold bias weight then [digit distance]
  else
    let t := threshold bias weight
    digit (t + (distance - t) % (36 - t)) :: digits bias (weight + 36) ((distance - t) / (36 - t))
termination_by distance
decreasing_by
  have := threshold_pos bias weight
  have := Nat.div_le_self (distance - threshold bias weight) (36 - threshold bias weight)
  omega

/-- Insertions being written: the digits so far, the distance since the last insertion, the
bias, and the number of characters that are there. -/
structure Writing where
  written : List Char := []
  distance : Nat := 0
  bias : Nat := firstBias
  present : Nat

/-- Pass one character of the text while those with the code point `n` are inserted. -/
def pass (plain n : Nat) (state : Writing) (c : Char) : Writing :=
  if c.toNat < n then { state with distance := state.distance + 1 }
  else if c.toNat = n then
    { written := state.written ++ digits state.bias 36 state.distance
      distance := 0
      bias := adapt (state.present == plain) state.distance (state.present + 1)
      present := state.present + 1 }
  else state

/-- Insert the characters with these code points, which are in order; `next` is the
smallest that could have been inserted now. -/
def insertAll (text : List Char) (plain : Nat) : (next : Nat) → List Nat → Writing → Writing
  | _, [], state => state
  | next, n :: rest, state =>
    let start := { state with distance := state.distance + (n - next) * (state.present + 1) }
    let state := text.foldl (pass plain n) start
    insertAll text plain (n + 1) rest { state with distance := state.distance + 1 }

/-- A text in ASCII. -/
def write (text : List Char) : List Char :=
  let plain := text.filter Text.isAscii
  let others := ((text.filter fun c => !Text.isAscii c).map Char.toNat).mergeSort
  let inserted := insertAll text plain.length 0x80 others.eraseDups { present := plain.length }
  plain ++ (if plain = [] then [] else ['-']) ++ inserted.written

/-! ## Reading -/

/-- Read a distance: add the digits, the next of which counts `factor` times, up to the last
one, and go on with what is behind it. -/
def readDistance (bias : Nat) : (weight factor distance : Nat) → List Char →
    Option (Nat × List Char)
  | _, _, _, [] => none
  | weight, factor, distance, c :: rest =>
    match digitValue? c with
    | none => none
    | some d =>
      if d < threshold bias weight then some (distance + d * factor, rest)
      else
        readDistance bias (weight + 36) (factor * (36 - threshold bias weight))
          (distance + d * factor) rest

/-- Something is read for every distance. -/
theorem readDistance_length {bias : Nat} {cs rest : List Char} :
    ∀ {weight factor distance found : Nat},
      readDistance bias weight factor distance cs = some (found, rest) →
        rest.length < cs.length := by
  induction cs with
  | nil => intro _ _ _ _ h; simp [readDistance] at h
  | cons c more ih =>
    intro weight factor distance found h
    rw [readDistance] at h
    split at h
    · simp at h
    · split at h
      · simp only [Option.some.injEq, Prod.mk.injEq] at h
        simp [← h.2]
      · have := ih h
        simp only [List.length_cons]
        omega

/-- The last code point that there is. -/
def lastCode : Nat := 0x10ffff

/-- Read insertions into a text.  `start` is the first place where the next one could be,
and `code` the smallest code point that it could have. -/
def readAll (isFirst : Bool) (bias code start : Nat) (text : List Nat) (cs : List Char) :
    Option (List Nat) :=
  if cs = [] then some text
  else
    match _h : readDistance bias 36 1 0 cs with
    | none => none
    | some (distance, rest) =>
      let room := text.length + 1
      let code := code + (start + distance) / room
      let place := (start + distance) % room
      if lastCode < code then none
      else
        readAll false (adapt isFirst distance room) code (place + 1)
          (text.take place ++ code :: text.drop place) rest
termination_by cs.length
decreasing_by exact readDistance_length _h

/-- The code points of the text that a text in ASCII stands for.  Its plain characters stand
before its last hyphen. -/
def read? (cs : List Char) : Option (List Nat) :=
  let (plain, inserted) := (Text.cutLast '-' cs).getD ([], cs)
  readAll true firstBias 0x80 0 (plain.map Char.toNat) inserted

end TaskTree.Insertions
