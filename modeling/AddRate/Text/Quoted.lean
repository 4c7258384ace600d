import AddRate.Text.Hidden

/-!
# Quoted text in messages

A value from outside is shown between double quotes. Quotes and backslashes inside it are
escaped, and so is every character that a reader could not see.
-/

namespace AddRate.Text

/-- How one character is shown between quotes. -/
def shownChar (c : Char) : List Char :=
  match c with
  | '\x00' => ['\\', '0']
  | '\t' => ['\\', 't']
  | '\r' => ['\\', 'r']
  | '\n' => ['\\', 'n']
  | '"' => ['\\', '"']
  | '\\' => ['\\', '\\']
  | c =>
    if hidden.contains c then
      ['\\', 'u', '\x7b'] ++ Nat.toDigits 16 c.toNat ++ ['\x7d']
    else
      [c]

/-- The text between double quotes, with everything hidden in it made visible. -/
def quoted (text : String) : String :=
  String.ofList (('"' :: text.toList.flatMap shownChar) ++ ['"'])

end AddRate.Text
