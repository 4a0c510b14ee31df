import TaskTree.Text.Category

/-!
# Directions in names of hosts

Some scripts go from right to left.  So that a label reads the same wherever it
is shown, one with such letters starts with a letter and keeps to its
direction: digits, signs and marks can be among the letters, and all but signs
can be at the end.  Digits of two kinds do not go together from right to left.
-/

namespace TaskTree

/-- The direction that a character has or takes. -/
inductive Direction where
  | leftToRight
  | rightToLeft
  | digit
  | arabicDigit
  /-- A sign without a direction. -/
  | neutral
  /-- A mark, which goes with the character before it. -/
  | mark
  deriving DecidableEq, Repr

namespace Direction

open Text

/-- What can be wrong with the directions in a label.  Positions count from one. -/
inductive Defect where
  | unknown (position : Nat)
  | badStart
  | stray (start : Direction) (position : Nat)
  | mixedDigits
  | badEnd
  deriving DecidableEq, Repr

/-- Digits that go from left to right in any script. -/
def digits : Ranges := [(0x30, 0x39), (0x6f0, 0x6f9)]

/-- Digits of scripts that go from right to left. -/
def arabicDigits : Ranges := [(0x660, 0x669), (0x10d30, 0x10d39)]

/-- Signs without a direction. -/
def neutrals : Ranges :=
  [ (0x2d, 0x2d), (0xb7, 0xb7), (0x2b9, 0x2ba), (0x2c6, 0x2cf), (0x2ec, 0x2ec), (0x375, 0x375),
    (0x200c, 0x200d), (0x2e2f, 0x2e2f), (0x30fb, 0x30fb), (0xa67f, 0xa67f), (0xa717, 0xa71f),
    (0xa788, 0xa788) ]

/-- Nonspacing marks that count as letters. -/
def letterMarks : Ranges :=
  [ (0xcbf, 0xcbf), (0xcc6, 0xcc6), (0x11a07, 0x11a08), (0x11c3f, 0x11c3f) ]

/-- The blocks of scripts that go from right to left. -/
def rightToLeftBlocks : Ranges :=
  [ (0x590, 0x8ff), (0xfb1d, 0xfdff), (0xfe70, 0xfeff), (0x10800, 0x10fff), (0x1e800, 0x1efff) ]

/-- The direction of a character that a label can have; nothing if it is not known. -/
def of? (n : Nat) : Option Direction :=
  if unassigned.has n then none
  else if digits.has n then some digit
  else if arabicDigits.has n then some arabicDigit
  else if neutrals.has n then some neutral
  else if nonspacingMarks.has n && !letterMarks.has n then some mark
  else if rightToLeftBlocks.has n then some rightToLeft
  else some leftToRight

/-- The direction turns the label that it is in. -/
def turns (d : Direction) : Bool :=
  d = rightToLeft || d = arabicDigit

/-- The direction has no place in a label that starts with `start`. -/
def straysFrom (start d : Direction) : Bool :=
  if start = rightToLeft then d = leftToRight else d.turns

/-- A label that starts with `start` can end with the direction. -/
def canEnd (start d : Direction) : Bool :=
  d = start || d = digit || (start = rightToLeft && d = arabicDigit)

/-- A digit of either kind. -/
def isDigit (d : Direction) : Bool :=
  d = digit || d = arabicDigit

/-- Go on in a label that starts with `start`.  `endsWell` tells that it could end here,
and `digits?` is the kind of its digits so far. -/
def checkFrom (start : Direction) : (position : Nat) → (endsWell : Bool) →
    (digits? : Option Direction) → List Direction → Except Defect Unit
  | _, endsWell, _, [] => if endsWell then .ok () else .error .badEnd
  | position, endsWell, digits?, d :: rest =>
    if straysFrom start d then .error (.stray start position)
    else if start = rightToLeft ∧ d.isDigit ∧ digits?.any (· ≠ d) then .error .mixedDigits
    else
      checkFrom start (position + 1) (canEnd start d || (d = mark && endsWell))
        (if d.isDigit then some d else digits?) rest

/-- Check the directions in a label, if any of them turns it. -/
def check (directions : List Direction) : Except Defect Unit :=
  match directions with
  | [] => .ok ()
  | start :: _ =>
    if !directions.any turns then .ok ()
    else if start = leftToRight ∨ start = rightToLeft then
      checkFrom start 1 false none directions
    else .error .badStart

/-- Check the directions of the characters in a label, which all have to be known. -/
def checkLabel (label : List Nat) : Except Defect Unit :=
  match label.mapM of? with
  | some directions => check directions
  | none => .error (.unknown ((label.takeWhile fun n => (of? n).isSome).length + 1))

end Direction

end TaskTree
