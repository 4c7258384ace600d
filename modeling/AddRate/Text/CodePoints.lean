/-!
# Sets of code points

A property of characters covers few, long runs of code points. A set is kept as the ascending
list of the points where membership changes, so a run `[first, last]` is the pair `first`,
`last + 1`, and a character is in the set exactly when an odd number of changes has happened
up to it.
-/

namespace AddRate.Text

/-- A set of code points, as the ascending points where membership changes. -/
structure CodePoints where
  changes : Array Nat

namespace CodePoints

/-- A code point is a member when an odd number of changes lies at or below it. -/
def containsPoint (points : CodePoints) (point : Nat) : Bool :=
  points.changes.countP (· ≤ point) % 2 == 1

/-- Membership of a character, by its code point. -/
def contains (points : CodePoints) (c : Char) : Bool :=
  points.containsPoint c.toNat

end CodePoints

end AddRate.Text
