import TaskTree.Address.Label
import TaskTree.Address.Numbers
import TaskTree.Address.Percent

/-!
# Hosts

Capital letters do not matter in the name of a host, not even the digits of a
byte behind a percent sign, so they are made small.  A name that goes beyond
ASCII is taken label by label, each in its form in ASCII.  A name that is in
ASCII already is not looked at, before a request is sent there; then a name
that starts with an encoded label has to be right in all its labels.

A text of numbers with points between them is an address of numbers, and so is
what stands in brackets; all others are names.
-/

namespace TaskTree.Host

/-- A full stop of any script. -/
def isStop (c : Char) : Bool :=
  c = '.' || c = '。' || c = '．' || c = '｡'

/-- The labels of a name, which can have a stop at its end, and whether it has one. -/
def labels (name : List Char) : List (List Char) × Bool :=
  let all := Text.split '.' (name.map fun c => if isStop c then '.' else c)
  if all.getLast? = some [] then (all.dropLast, true) else (all, false)

/-- The form of a name that goes beyond ASCII.  It takes no fewer characters than the
name. -/
def encodeName (name : List Char) : Except Label.Defect (List Char) :=
  if Label.maxName < name.length ∨ Label.maxName < (Text.lower name).length then
    .error .nameTooLong
  else
    let (labels, hasStop) := labels (Text.lower name)
    match labels.mapM Label.toForm with
    | .error defect => .error defect
    | .ok forms =>
      let form := Text.join '.' forms
      if Label.maxName ≤ form.length then .error .nameTooLong
      else .ok (if hasStop then form ++ ['.'] else form)

/-- Check the labels of a name in ASCII, if the first one is encoded. -/
def checkName (name : List Char) : Except Label.Defect Unit :=
  if !Label.formMark.isPrefixOf name then .ok ()
  else if Label.maxName < name.length then .error .nameTooLong
  else (labels name).1.forM fun label => (Label.ofForm label).map fun _ => ()

/-- A character that the name of a host keeps. -/
def keeps (c : Char) : Bool :=
  Percent.isPlain c || "!$&'()*+,;=\"`\x7b\x7d%|\\".toList.contains c

/-- What stands between the brackets of a text in brackets. -/
def bracketed? (cs : List Char) : Option (List Char) :=
  match cs, cs.getLast? with
  | '[' :: rest, some ']' => if rest = [] then none else some rest.dropLast
  | _, _ => none

/-- What the text of a host is taken for. -/
inductive Kind where
  | quad
  | groups
  | name
  deriving DecidableEq, Repr

/-- A text that is not a host, with what it was taken for. -/
structure Defect where
  kind : Kind
  text : List Char
  deriving DecidableEq, Repr

/-- A text that looks like a quad has to be one. -/
def checkQuad (cs : List Char) : Except Defect Unit :=
  if Numbers.looksLikeQuad cs && !Numbers.isQuad cs then .error ⟨.quad, cs⟩ else .ok ()

/-- The form of a host.  The kind that a text is taken for shows in its characters, and it has
to be right in that kind. -/
def normalise (cs : List Char) : Except Defect (List Char) :=
  match checkQuad cs, bracketed? cs with
  | .error defect, _ => .error defect
  | .ok (), some inner => if Numbers.isGrouped inner then .ok inner else .error ⟨.groups, cs⟩
  | .ok (), none =>
    if cs.all Text.isAscii then
      .ok ((Percent.encode keeps (cs.map Char.toLower)).map Char.toLower)
    else
      match encodeName cs with
      | .ok form => .ok form
      | .error _ => .error ⟨.name, cs⟩

end TaskTree.Host
