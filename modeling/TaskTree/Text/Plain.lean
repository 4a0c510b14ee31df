/-!
# Text without control sequences

A control sequence tells a terminal to change colours and the like.  It is an
escape character and a bracket, then digits, semicolons and question marks,
and at last a letter.  What is not printed on a terminal has none of them.
-/

namespace TaskTree.Text

/-- A character between the bracket and the letter of a control sequence. -/
def isParameter (c : Char) : Bool :=
  ('0' ≤ c && c ≤ '9') || c = ';' || c = '?'

/-- A letter that can end a control sequence. -/
def isLetter (c : Char) : Bool :=
  ('a' ≤ c && c ≤ 'z') || ('A' ≤ c && c ≤ 'Z')

/-- The text after the rest of a control sequence, if it is one. -/
def afterSequence? : List Char → Option (List Char)
  | [] => none
  | c :: rest =>
    if isParameter c then afterSequence? rest
    else if isLetter c then some rest
    else none

theorem length_afterSequence {cs rest : List Char} (h : afterSequence? cs = some rest) :
    rest.length < cs.length := by
  induction cs with
  | nil => simp [afterSequence?] at h
  | cons c more ih =>
    unfold afterSequence? at h
    split at h
    · have := ih h
      simp only [List.length_cons]; omega
    · split at h
      · simp only [Option.some.injEq] at h
        simp [h]
      · simp at h

/-- A text without its control sequences. -/
def withoutSequences : List Char → List Char
  | [] => []
  | '\x1b' :: '[' :: rest =>
    match _h : afterSequence? rest with
    | some rest' => withoutSequences rest'
    | none => '\x1b' :: '[' :: withoutSequences rest
  | c :: rest => c :: withoutSequences rest
termination_by cs => cs.length
decreasing_by
  · have := length_afterSequence ‹_›
    simp only [List.length_cons]; omega
  · simp only [List.length_cons]; omega
  · simp only [List.length_cons]; omega

end TaskTree.Text
