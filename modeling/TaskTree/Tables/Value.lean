import TaskTree.Decimal.Wide
import TaskTree.Fault

/-!
# Values in columns

The columns for paths and contents keep texts.  Other values are turned into
texts when they are put there, and null is nothing at all.  Arrays and objects
cannot be put there, nor whole numbers of more than 64 bits.
-/

namespace TaskTree.Tables

/-- The written form of real numbers in a column. -/
def realLayout : Binary64.Layout where
  leastPositional := -4
  endPositional := 15
  exponentWidth := 2
  behindOneDigit := ".0"
  infinity := "Inf"
  notANumber := ""

/-- The least whole number that no column keeps. -/
def endOfWhole : Int := 9223372036854775808

/-- The text that a column keeps for a value, which is the one at `position` among those that
are put there together. -/
def columnText (position : Nat) : Json → Except Mishap (Option String)
  | .null => .ok none
  | .bool b => .ok (some (if b then "1" else "0"))
  | .int n =>
    if -endOfWhole ≤ n ∧ n < endOfWhole then .ok (some (toString n)) else .error .numberTooLarge
  | .float .nan => .ok none
  | .float x => .ok (some (x.writeRounded realLayout))
  | .string s => .ok (some s)
  | v => .error (.notStorable position v)

/-- The texts that columns keep for values; the first one is at `position`. -/
def columnTexts (position : Nat) : List (String × Json) →
    Except Mishap (List (String × Option String))
  | [] => .ok []
  | (name, v) :: rest =>
    match columnText position v with
    | .error mishap => .error mishap
    | .ok text => (columnTexts (position + 1) rest).map ((name, text) :: ·)

end TaskTree.Tables
