/-!
# Named things in a row

The children of a node, the roots of a graph and the members of an object are
rows of named things.  A row keeps the order in which names first came, and
each name is there once if the row was built with `insert` and `erase`.  The
view of a row is `find?`; the lemmas say what each operation does to it.
-/

namespace TaskTree

/-- A row of named things, in the order in which the names came. -/
abbrev Named (α : Type) := List (String × α)

namespace Named

variable {α β : Type}

/-- The thing with this name. -/
def find? (name : String) : Named α → Option α
  | [] => none
  | (n, a) :: rest => if n = name then some a else find? name rest

/-- Some thing has this name. -/
def has (name : String) (row : Named α) : Bool :=
  (find? name row).isSome

/-- Give a name to a thing.  A known name keeps its place, a new one comes last. -/
def insert (name : String) (a : α) : Named α → Named α
  | [] => [(name, a)]
  | (n, b) :: rest => if n = name then (n, a) :: rest else (n, b) :: insert name a rest

/-- The row without this name. -/
def erase (name : String) (row : Named α) : Named α :=
  row.filter fun entry => entry.1 ≠ name

/-- The names of a row. -/
def names (row : Named α) : List String :=
  row.map Prod.fst

/-- The row in the order of its names, which is by code point. -/
def sorted (row : Named α) : Named α :=
  row.mergeSort fun a b => decide (a.1 ≤ b.1)

/-- The row that pairs given one after another make: a repeated name has the last
thing, at the first place. -/
def ofPairs (pairs : List (String × α)) : Named α :=
  pairs.foldl (fun row entry => insert entry.1 entry.2 row) []

@[simp] theorem find?_nil (name : String) : find? name ([] : Named α) = none := rfl

/-- What was put in is found under its name, and all else as before. -/
theorem find?_insert (name other : String) (a : α) (row : Named α) :
    find? other (insert name a row) = if name = other then some a else find? other row := by
  induction row with
  | nil => simp [insert, find?]
  | cons entry rest ih =>
    obtain ⟨n, b⟩ := entry
    by_cases h : n = name
    · subst h
      by_cases ho : n = other <;> simp [insert, find?, ho]
    · by_cases ho : n = other
      · subst ho
        simp [insert, find?, h, Ne.symm h]
      · simp [insert, find?, h, ho, ih]

@[simp] theorem find?_insert_self (name : String) (a : α) (row : Named α) :
    find? name (insert name a row) = some a := by
  simp [find?_insert]

/-- What was taken out is not found, and all else as before. -/
theorem find?_erase (name other : String) (row : Named α) :
    find? other (erase name row) = if name = other then none else find? other row := by
  induction row with
  | nil => simp [erase]
  | cons entry rest ih =>
    obtain ⟨n, b⟩ := entry
    have step : erase name ((n, b) :: rest) =
        if n = name then erase name rest else (n, b) :: erase name rest := by
      by_cases h : n = name <;> simp [erase, h]
    rw [step]
    by_cases h : n = name
    · subst h
      by_cases ho : n = other
      · simpa [ho] using ih
      · simpa [find?, ho] using ih
    · by_cases ho : n = other
      · subst ho
        simp [find?, h, Ne.symm h]
      · simp [find?, h, ho, ih]

@[simp] theorem find?_erase_self (name : String) (row : Named α) :
    find? name (erase name row) = none := by
  simp [find?_erase]

end Named

end TaskTree
