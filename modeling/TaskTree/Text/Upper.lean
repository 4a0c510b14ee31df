/-!
# Capital letters

A text in the capital letters of ASCII.  Besides the small letters of ASCII a
few others have such capitals: the dotless `i`, the long and the sharp `s`, and
the ligatures.  All other characters stay as they are.
-/

namespace TaskTree.Text

/-- Letters beyond ASCII, with their capitals. -/
def capitalsBeyond : List (Char × String) :=
  [ ('ß', "SS"), ('ı', "I"), ('ſ', "S"), ('ﬀ', "FF"), ('ﬁ', "FI"), ('ﬂ', "FL"),
    ('ﬃ', "FFI"), ('ﬄ', "FFL"), ('ﬅ', "ST"), ('ﬆ', "ST") ]

/-- A text with all letters capital that have a capital in ASCII. -/
def upper (text : String) : String :=
  String.join <| text.toList.map fun c => (capitalsBeyond.lookup c).getD c.toUpper.toString

end TaskTree.Text
