import AddRate.Text.CodePoints

/-!
# Blank characters

The characters with the Unicode property `White_Space`, and the removal of blanks around a text.
-/

namespace AddRate.Text

/-- The code points with the property `White_Space`. -/
def blanks : CodePoints :=
  ⟨#[0x9, 0xE, 0x20, 0x21, 0x85, 0x86, 0xA0, 0xA1, 0x1680, 0x1681, 0x2000, 0x200B,
     0x2028, 0x202A, 0x202F, 0x2030, 0x205F, 0x2060, 0x3000, 0x3001]⟩

def isBlank (c : Char) : Bool :=
  blanks.contains c

/-- The characters left when leading and trailing blanks are removed. -/
def trimChars (chars : List Char) : List Char :=
  ((chars.dropWhile isBlank).reverse.dropWhile isBlank).reverse

/-- The text without the blanks around it. -/
def trim (text : String) : String :=
  String.ofList (trimChars text.toList)

end AddRate.Text
