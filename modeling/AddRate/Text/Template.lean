/-!
# Placeholders in a text

Replacement of every occurrence of a placeholder, found from left to right; what was put in is
not searched again.
-/

namespace AddRate.Text

/-- Put `value` in the place of each occurrence of `placeholder`. -/
def substituteChars (placeholder value : List Char) : List Char → List Char
  | [] => []
  | c :: rest =>
    if placeholder.isPrefixOf (c :: rest) then
      value ++ substituteChars placeholder value (rest.drop (placeholder.length - 1))
    else
      c :: substituteChars placeholder value rest
termination_by text => text.length
decreasing_by
  · simp only [List.length_drop, List.length_cons]; omega
  · simp

def substitute (placeholder value text : String) : String :=
  String.ofList (substituteChars placeholder.toList value.toList text.toList)

end AddRate.Text
