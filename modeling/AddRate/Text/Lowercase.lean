import AddRate.Text.Casing

/-!
# Lower case

Two maps to lower case: one that touches the letters `A` to `Z` only, and the full one, in which
a character may become two and a capital sigma depends on its neighbours.
-/

namespace AddRate.Text

/-- Lower case of the letters `A` to `Z`; every other character stays. -/
def asciiLowercase (text : String) : String :=
  String.ofList (text.toList.map Char.toLower)

/-- The lower case of a code point covered by a run. -/
def CaseRun.lower? (run : CaseRun) (point : Nat) : Option Nat :=
  if run.first ≤ point ∧ point ≤ run.last ∧ (point - run.first) % run.step = 0 then
    some (point + run.shift).toNat
  else
    none

/-- The lower case of a character, apart from its neighbours. -/
def lowerChar (c : Char) : List Char :=
  if c = 'İ' then
    ['i', '\u0307']
  else
    [((lowerRuns.findSome? (·.lower? c.toNat)).map Char.ofNat).getD c]

/-- Whether the nearest character that is not ignored has a case. -/
def meetsCased (chars : List Char) : Bool :=
  match chars.dropWhile caseIgnorable.contains with
  | [] => false
  | c :: _ => cased.contains c

/-- The lower case of a text whose reversed `before` has been read already. A capital sigma
becomes the final form when a cased character precedes it and none follows. -/
def lowercaseAfter (before : List Char) : List Char → List Char
  | [] => []
  | c :: rest =>
    let lower :=
      if c = 'Σ' then
        if meetsCased before && !meetsCased rest then ['ς'] else ['σ']
      else
        lowerChar c
    lower ++ lowercaseAfter (c :: before) rest

def lowercase (text : String) : String :=
  String.ofList (lowercaseAfter [] text.toList)

end AddRate.Text
