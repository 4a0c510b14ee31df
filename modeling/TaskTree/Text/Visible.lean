/-!
# Text up to its first null

The measures of columns count characters, but they stop at the first null
character: what comes after it does not count and is never part of a cut.
Comparing texts does look at all of them.
-/

namespace TaskTree.Text

/-- The characters of a text before its first null. -/
def visible (cs : List Char) : List Char :=
  cs.takeWhile fun c => c.toNat ≠ 0

/-- The number of characters that count. -/
def visibleLength (cs : List Char) : Nat :=
  (visible cs).length

/-- The first `n` characters that count. -/
def visibleTake (n : Nat) (cs : List Char) : List Char :=
  (visible cs).take n

/-- The characters that count after the first `n`. -/
def visibleDrop (n : Nat) (cs : List Char) : List Char :=
  (visible cs).drop n

/-- A text without null characters counts as a whole. -/
theorem visible_eq_self {cs : List Char} (h : ∀ c ∈ cs, c.toNat ≠ 0) : visible cs = cs := by
  induction cs with
  | nil => rfl
  | cons c rest ih =>
    have hc : c.toNat ≠ 0 := h c (by simp)
    have hrest := ih fun d hd => h d (List.mem_cons_of_mem _ hd)
    simpa [visible, hc] using hrest

end TaskTree.Text
