/-!
# JSON values

A value keeps what a text says and nothing more: the members of an object stay in order, repeated
names included, and a number stays the text it is written as. An escape can name half of a
surrogate pair, which no text holds; a string with such a half unpaired is kept as `none`.
-/

namespace AddRate

inductive Json where
  | null
  | bool (value : Bool)
  | number (literal : List Char)
  | string (text : Option (List Char))
  | array (items : List Json)
  | object (members : List (Option (List Char) × Json))
  deriving Inhabited

namespace Json

def ofString (text : String) : Json :=
  .string (some text.toList)

def ofNat (count : Nat) : Json :=
  .number (Nat.toDigits 10 count)

def member (name : String) (value : Json) : Option (List Char) × Json :=
  (some name.toList, value)

end Json

end AddRate
