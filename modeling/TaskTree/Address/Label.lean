import TaskTree.Address.Direction
import TaskTree.Address.Insertions
import TaskTree.Address.Joining
import TaskTree.Address.Letters
import TaskTree.Text.Quoted

/-!
# Labels

The name of a host is made of labels.  A label is a composed text of small
letters, marks, digits and hyphens; characters that need a certain place have
it, and its directions go together.  A label with characters beyond ASCII has a
form in ASCII, which starts with a mark of its own.  A form that a label could
not have is refused in the same words as a label.

A label that is read from its form can hold any code points, so a label is a
list of those.
-/

namespace TaskTree.Label

/-- Why a text is no label, or no name.  Positions count from one. -/
inductive Defect where
  | empty
  | tooLong
  | notComposed
  | innerHyphens
  | outerHyphen
  | markInFront
  | forbidden (label : List Nat) (code position : Nat)
  | astray (label : List Nat) (code position : Nat)
  | strayJoiner (label : List Nat) (code position : Nat)
  | obscureNeighbour (label : List Nat) (code position : Nat)
  | direction (label : List Nat) (defect : Direction.Defect)
  | nothingBehindMark
  | hyphenBehindMark
  | unreadable
  | otherForm
  | nameTooLong
  deriving DecidableEq, Repr

/-- The hyphen. -/
def hyphen : Nat := 0x2d

/-- A code point in a message. -/
def codeText (n : Nat) : String :=
  let width := if n < 0x10000 then 4 else if n < 0x100000 then 5 else 6
  "U+" ++ String.ofList ((Text.hexDigits width n).map Char.toUpper)

/-- A quoted label. -/
def quoted (label : List Nat) : String :=
  let quote := Text.quoteFor (label.map Char.ofNat)
  let inside := label.flatMap fun n =>
    if n.isValidChar then Text.escapeInside quote (Char.ofNat n) else Text.escapeByNumber n
  String.ofList (quote :: inside ++ [quote])

/-- What is wrong with directions, in words. -/
def directionMessage (label : List Nat) : Direction.Defect → String
  | .unknown position =>
    s!"Unknown directionality in label {quoted label} at position {position}"
  | .badStart => s!"First codepoint in label {quoted label} must be directionality L, R or AL"
  | .stray start position =>
    let side := if start = .rightToLeft then "right-to-left" else "left-to-right"
    s!"Invalid direction for codepoint at position {position} in a {side} label"
  | .mixedDigits => "Can not mix numeral types in a right-to-left label"
  | .badEnd => "Label ends with illegal codepoint directionality"

/-- What is wrong, in words. -/
def Defect.message : Defect → String
  | empty => "Empty Label"
  | tooLong => "Label too long"
  | notComposed => "Label must be in Normalization Form C"
  | innerHyphens => "Label has disallowed hyphens in 3rd and 4th position"
  | outerHyphen => "Label must not start or end with a hyphen"
  | markInFront => "Label begins with an illegal combining character"
  | forbidden label code position =>
    s!"Codepoint {codeText code} at position {position} of {quoted label} not allowed"
  | astray label code position =>
    s!"Codepoint {codeText code} not allowed at position {position} in {quoted label}"
  | strayJoiner label code position =>
    s!"Joiner {codeText code} not allowed at position {position} in {quoted label}"
  | obscureNeighbour label code position =>
    s!"Unknown codepoint adjacent to joiner {codeText code} at position {position} in " ++
      quoted label
  | direction label defect => directionMessage label defect
  | nothingBehindMark => "Malformed A-label, no Punycode eligible content found"
  | hyphenBehindMark => "A-label must not end with a hyphen"
  | unreadable => "Invalid A-label"
  | otherForm => "A-label is not the canonical Punycode encoding of its U-label"
  | nameTooLong => "Domain too long"

/-- The most characters of a label in ASCII. -/
def maxForm : Nat := 63

/-- The most characters of a name, with a stop at its end. -/
def maxName : Nat := 254

/-- Check the characters of a label.  `before` are those that have been checked, the last one
first. -/
def checkFrom (label : List Nat) : (before : List Nat) → List Nat → Except Defect Unit
  | _, [] => .ok ()
  | before, n :: behind =>
    let position := before.length + 1
    if Letters.isLetter n then checkFrom label (n :: before) behind
    else if n = Joining.joiner ∨ n = Joining.nonJoiner then
      if Joining.belongs before n behind then checkFrom label (n :: before) behind
      else if before.head?.any Joining.isObscure then .error (.obscureNeighbour label n position)
      else .error (.strayJoiner label n position)
    else
      match Letters.belongs? before n behind with
      | some true => checkFrom label (n :: before) behind
      | some false => .error (.astray label n position)
      | none => .error (.forbidden label n position)

/-- Check a label. -/
def check (label : List Nat) : Except Defect Unit :=
  if label = [] then .error .empty
  else if maxName < label.length then .error .tooLong
  else if !Text.isComposed label then .error .notComposed
  else if (label.drop 2).take 2 = [hyphen, hyphen] then .error .innerHyphens
  else if label.head? = some hyphen ∨ label.getLast? = some hyphen then .error .outerHyphen
  else if label.head?.any Text.isMark then .error .markInFront
  else
    match checkFrom label [] label with
    | .error defect => .error defect
    | .ok () => (Direction.checkLabel label).mapError (.direction label)

/-- The mark in front of the form of a label that goes beyond ASCII. -/
def formMark : List Char := "xn--".toList

/-- The label that a form in ASCII is written for.  A label has one form only. -/
def ofForm (form : List Char) : Except Defect (List Nat) :=
  let form := form.map Char.toLower
  if !formMark.isPrefixOf form then
    let label := form.map Char.toNat
    (check label).map fun () => label
  else
    let rest := form.drop formMark.length
    if rest = [] then .error .nothingBehindMark
    else if rest.getLast? = some '-' then .error .hyphenBehindMark
    else
      match Insertions.read? rest with
      | none => .error .unreadable
      | some label =>
        match check label with
        | .error defect => .error defect
        | .ok () =>
          if Insertions.write (label.map Char.ofNat) = rest then .ok label else .error .otherForm

/-- A form that is short enough. -/
def fitting (form : List Char) : Except Defect (List Char) :=
  if maxForm < form.length then .error .tooLong else .ok form

/-- The form of a label in ASCII. -/
def toForm (label : List Char) : Except Defect (List Char) :=
  if label.all Text.isAscii then
    match ofForm label with
    | .error defect => .error defect
    | .ok _ => fitting label
  else
    match check (label.map Char.toNat) with
    | .error defect => .error defect
    | .ok () => fitting (formMark ++ Insertions.write label)

end TaskTree.Label
