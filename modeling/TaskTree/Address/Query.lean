import TaskTree.Address.Percent
import TaskTree.Text.Split

/-!
# Queries

The query of an address gives values to names.  The pairs stand between `&`, a
name before the first `=` and its value behind; a plus stands for a space.
Empty pieces are no pairs, and a name alone has an empty value.
-/

namespace TaskTree.Query

/-- A name or a value as it is written in a query. -/
def encodeText (s : String) : List Char :=
  s.toList.flatMap fun c => if c = ' ' then ['+'] else Percent.encode Percent.isPlain [c]

/-- The query that gives these values. -/
def encode (pairs : List (String × String)) : String :=
  String.ofList <| Text.join '&' <| pairs.map fun (name, value) =>
    encodeText name ++ '=' :: encodeText value

/-- The name or the value that a piece of a query writes. -/
def decodeText (cs : List Char) : String :=
  String.ofList (Percent.decode (cs.map fun c => if c = '+' then ' ' else c))

/-- The pair that a piece of a query writes. -/
def decodePair (piece : List Char) : String × String :=
  let (name, value) := Text.cut '=' piece
  (decodeText name, decodeText (value.getD []))

/-- The pairs of a query. -/
def decode (query : String) : List (String × String) :=
  ((Text.split '&' query.toList).filter fun piece => !piece.isEmpty).map decodePair

end TaskTree.Query
