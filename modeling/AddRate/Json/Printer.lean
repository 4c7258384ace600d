import AddRate.Json.Basic

/-!
# Writing JSON

The compact text of a value: no blanks, members in their order, and in strings the shortest
escape for a quote, a backslash and a control character, all else as it is.
-/

namespace AddRate.Json

/-- How a character stands in a string. -/
def escapedChar (c : Char) : List Char :=
  match c with
  | '"' => ['\\', '"']
  | '\\' => ['\\', '\\']
  | '\x08' => ['\\', 'b']
  | '\x0C' => ['\\', 'f']
  | '\n' => ['\\', 'n']
  | '\r' => ['\\', 'r']
  | '\t' => ['\\', 't']
  | c =>
    if c.toNat < 0x20 then
      ['\\', 'u', '0', '0', Nat.digitChar (c.toNat / 16), Nat.digitChar (c.toNat % 16)]
    else
      [c]

/-- A string between quotes. One that spells no text is written as half a surrogate pair. -/
def quotedChars : Option (List Char) → List Char
  | some text => '"' :: text.flatMap escapedChar ++ ['"']
  | none => ['"', '\\', 'u', 'd', '8', '0', '0', '"']

mutual

def compactChars : Json → List Char
  | .null => ['n', 'u', 'l', 'l']
  | .bool true => ['t', 'r', 'u', 'e']
  | .bool false => ['f', 'a', 'l', 's', 'e']
  | .number literal => literal
  | .string text => quotedChars text
  | .array items => '[' :: itemChars items ++ [']']
  | .object members => '\x7b' :: memberChars members ++ ['\x7d']

/-- Items with commas between them. -/
def itemChars : List Json → List Char
  | [] => []
  | [item] => compactChars item
  | item :: next :: rest => compactChars item ++ ',' :: itemChars (next :: rest)

/-- Members with commas between them. -/
def memberChars : List (Option (List Char) × Json) → List Char
  | [] => []
  | [(name, value)] => quotedChars name ++ ':' :: compactChars value
  | (name, value) :: next :: rest =>
    quotedChars name ++ ':' :: compactChars value ++ ',' :: memberChars (next :: rest)

end

def compact (value : Json) : String :=
  String.ofList (compactChars value)

end AddRate.Json
