import AddRate.Pattern.Basic
import AddRate.Pattern.Reader

/-!
# Patterns that can be used

Patterns are matched against text by a table over its bytes, without the tables of Unicode. So a
pattern can be used only if it matches whole characters, needs neither the letter case nor the
kinds of characters beyond ASCII, and is not too deep. The flag `u` chooses between characters and
bytes; it is set at first. The flag `i` asks for either letter case.
-/

namespace AddRate.Pattern

/-- The flags on which the use of a part depends. -/
structure Mode where
  caseless : Bool := false
  unicode : Bool := true

/-- The mode after a change of flags. -/
def Mode.changed (mode : Mode) (change : FlagChange) : Mode where
  caseless := (change.value? 'i').getD mode.caseless
  unicode := (change.value? 'u').getD mode.unicode

/-- Whether a character can be used: in either letter case only among bytes, and there not as a
byte beyond ASCII. -/
def Mode.allowsChar (mode : Mode) (member : PatternChar) : Bool :=
  if mode.unicode then !mode.caseless else !member.isByte || member.char.toNat < 128

/-- Whether a character can be used in a class; among bytes it is one itself. -/
def Mode.allowsMember (mode : Mode) (member : PatternChar) : Bool :=
  if mode.unicode then !mode.caseless else member.char.toNat < 128

/-- Whether a class by a letter can be used: only among bytes, where it must not be negated. -/
def Mode.allowsLettered (mode : Mode) (negated : Bool) : Bool :=
  !mode.unicode && !negated

/-- Whether a class in brackets or by its name may be negated; among bytes it would contain some
beyond ASCII. -/
def Mode.allowsNegated (mode : Mode) (negated : Bool) : Bool :=
  mode.unicode || !negated

mutual

/-- Whether the content of a class can be used. -/
def allowsSet (mode : Mode) : CharSet → Bool
  | .empty => true
  | .char member => mode.allowsMember member
  | .range first last => mode.allowsMember first && mode.allowsMember last
  | .named negated => mode.allowsNegated negated && !(mode.unicode && mode.caseless)
  | .lettered negated => mode.allowsLettered negated
  | .bracketed negated content => mode.allowsNegated negated && allowsSet mode content
  | .union items => allowsItems mode items
  | .operation left right => allowsSet mode left && allowsSet mode right

/-- Whether all items of a class can be used. -/
def allowsItems (mode : Mode) : List CharSet → Bool
  | [] => true
  | item :: rest => allowsSet mode item && allowsItems mode rest

end

mutual

/-- The mode after a pattern that can be used. -/
def modeAfter? (mode : Mode) : Pattern → Option Mode
  | .empty | .edge => some mode
  | .char member => if mode.allowsChar member then some mode else none
  | .any => if mode.unicode then some mode else none
  | .wordBoundary => if mode.unicode then none else some mode
  | .lettered negated => if mode.allowsLettered negated then some mode else none
  | .set negated content =>
    if mode.allowsNegated negated && allowsSet mode content then some mode else none
  | .flags change => some (mode.changed change)
  | .repetition inner => modeAfter? mode inner
  | .group change inner => (modeAfter? (mode.changed change) inner).map fun _ => mode
  | .alternation branches => modeAfterParts? mode branches
  | .sequence parts => modeAfterParts? mode parts

/-- The mode after several patterns. -/
def modeAfterParts? (mode : Mode) : List Pattern → Option Mode
  | [] => some mode
  | part :: rest => (modeAfter? mode part).bind (modeAfterParts? · rest)

end

/-- The greatest depth of a pattern that can be used. -/
def maxDepth : Nat := 250

/-- Whether a pattern can be used. -/
def isUsable (pattern : Pattern) : Bool :=
  decide (pattern.depth ≤ maxDepth) && (modeAfter? {} pattern).isSome

/-- Whether a text is a pattern that can be used. -/
def accepts (text : List Char) : Bool :=
  (parse? text).any isUsable

end AddRate.Pattern
