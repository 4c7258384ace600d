/-!
# Substrings

Whether a text occurs within another.
-/

namespace AddRate.Text

/-- Whether `part` occurs in a list of characters. -/
def occursIn (part : List Char) : List Char → Bool
  | [] => part.isEmpty
  | c :: rest => part.isPrefixOf (c :: rest) || occursIn part rest

/-- Whether `part` occurs in `text`. -/
def contains (part text : String) : Bool :=
  occursIn part.toList text.toList

end AddRate.Text
