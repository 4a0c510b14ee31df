import TaskTree.Decimal.Numeral
import TaskTree.Text.Digit
import TaskTree.Text.Split

/-!
# Addresses of numbers

A host can be told by four decimal numbers with points between them, a quad, or
by eight groups of hexadecimal digits with colons between them.  One run of
zero groups can be left out, and the last two groups can be written as a quad.
Behind a percent sign stands the zone in which the groups count.
-/

namespace TaskTree.Numbers

/-- Four runs of digits with points between them. -/
def looksLikeQuad (cs : List Char) : Bool :=
  let runs := Text.split '.' cs
  runs.length = 4 && runs.all fun run => !run.isEmpty && run.all Numeral.isDigit

/-- One of the four numbers of a quad. -/
def isOctet (cs : List Char) : Bool :=
  !cs.isEmpty && cs.all Numeral.isDigit && cs.length ≤ 3 && Numeral.digitsValue cs ≤ 255 &&
    (cs.length = 1 || cs.head? ≠ some '0')

/-- Four numbers with points between them. -/
def isQuad (cs : List Char) : Bool :=
  let pieces := Text.split '.' cs
  pieces.length = 4 && pieces.all isOctet

/-- One of the eight groups. -/
def isGroup (cs : List Char) : Bool :=
  !cs.isEmpty && cs.length ≤ 4 && (Text.hexNumber? cs).isSome

/-- The texts between the colons, with a quad at the end as two groups. -/
def groupTexts? (cs : List Char) : Option (List (List Char)) :=
  let pieces := Text.split ':' cs
  let last := pieces.getLast?.getD []
  if !last.contains '.' then some pieces
  else if isQuad last then some (pieces.dropLast ++ [['0'], ['0']])
  else none

/-- The groups on one side of a gap; a colon at the outer end belongs to the gap. -/
def outer (groups : List (List Char)) : List (List Char) :=
  if groups = [[]] then [] else groups

/-- Eight groups, or fewer with a gap for one or more. -/
def areGroups (groups : List (List Char)) : Bool :=
  let inner := (groups.drop 1).dropLast
  let front := groups.take (1 + (inner.takeWhile fun g => !g.isEmpty).length)
  let back := groups.drop (front.length + 1)
  match inner.countP List.isEmpty with
  | 0 => groups.length = 8 && groups.all isGroup
  | 1 =>
    let written := outer front ++ outer back
    written.length ≤ 7 && written.all isGroup
  | _ => false

/-- An address of groups, with or without a zone. -/
def isGrouped (cs : List Char) : Bool :=
  let (address, zone) := Text.cut '%' cs
  zone.all (fun zone => !zone.isEmpty && !zone.contains '%') &&
    ((groupTexts? address).any areGroups)

end TaskTree.Numbers
