import TaskTree.Json.Basic
import TaskTree.Text.Quoted

/-!
# Values in messages

How a message shows a value that it complains about, and the word that it uses
for the type of a value.
-/

namespace TaskTree.Json

/-- Numbers are positional from `10 ^ -4` up to below `10 ^ 16`, and a written exponent
has two digits or more. -/
def numberLayout : Binary64.Layout where
  leastPositional := -4
  endPositional := 16
  exponentWidth := 2
  infinity := "inf"
  notANumber := "nan"

mutual

/-- The form in which a message shows a value. -/
def literal : Json → String
  | .null => "None"
  | .bool true => "True"
  | .bool false => "False"
  | .int n => toString n
  | .float x => x.write numberLayout
  | .string s => Text.quoted s
  | .array elements => "[" ++ String.intercalate ", " (literals elements) ++ "]"
  | .object members => "\x7b" ++ String.intercalate ", " (memberLiterals members) ++ "\x7d"

/-- The literals of the elements of an array. -/
def literals : List Json → List String
  | [] => []
  | v :: rest => literal v :: literals rest

/-- The literals of the members of an object, each with its name. -/
def memberLiterals : List (String × Json) → List String
  | [] => []
  | (name, v) :: rest => (Text.quoted name ++ ": " ++ literal v) :: memberLiterals rest

end

/-- A value inside a sentence: a string as it is, any other value as its literal. -/
def inline : Json → String
  | .string s => s
  | v => v.literal

/-- The word for what a value is. -/
def typeWord : Json → String
  | .null => "NoneType"
  | .bool _ => "bool"
  | .int _ => "int"
  | .float _ => "float"
  | .string _ => "str"
  | .array _ => "list"
  | .object _ => "dict"

end TaskTree.Json
