import TaskTree.Json.Reader
import TaskTree.Text.Encoding

/-!
# Received JSON

What comes over the wire is bytes, and nothing beside them says how they are to
be read.  The bytes themselves tell their encoding; then they are read as any
other text, but for a byte order mark in front, which is no part of the text.
-/

namespace TaskTree.Json

/-- Why received bytes have no value. -/
inductive Unread where
  | undecodable (fault : Encoding.Fault)
  | refused (text : List Char) (refusal : Refusal)
  deriving Repr

/-- A text without a byte order mark in front. -/
def withoutMark : List Char → List Char
  | '\ufeff' :: rest => rest
  | cs => cs

/-- The text that received bytes write. -/
def receivedText (bytes : List UInt8) : Except Encoding.Fault (List Char) :=
  ((Encoding.ofBytes bytes).decode bytes).map withoutMark

/-- The value that received bytes write. -/
def receive (depth : Nat) (bytes : List UInt8) : Except Unread Json :=
  match receivedText bytes with
  | .error fault => .error (.undecodable fault)
  | .ok text =>
    match readAll depth text with
    | .error refusal => .error (.refused text refusal)
    | .ok v => .ok v

end TaskTree.Json
