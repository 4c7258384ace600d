/-!
# Patterns

Regular expressions as trees, as far as their shape decides whether they can be used: what a
character class contains, where flags change, and how deep the tree is.
-/

namespace AddRate

/-- A character in a pattern, and whether it was written as a byte of two hexadecimal digits. -/
structure PatternChar where
  char : Char
  isByte : Bool := false
  deriving DecidableEq, Repr

/-- What a character class contains. -/
inductive CharSet where
  | empty
  | char (member : PatternChar)
  | range (first last : PatternChar)
  /-- A class by its name, such as `[:alpha:]`. -/
  | named (negated : Bool)
  /-- A class by a letter: digits, blanks or word characters. -/
  | lettered (negated : Bool)
  | bracketed (negated : Bool) (content : CharSet)
  | union (items : List CharSet)
  /-- An intersection, a difference or a symmetric difference. -/
  | operation (left right : CharSet)

/-- Changes of flags, as they are written: flags to set, then a hyphen and flags to clear. -/
structure FlagChange where
  text : List Char
  deriving DecidableEq, Repr

inductive Pattern where
  | empty
  | char (member : PatternChar)
  | any
  /-- The start or the end of a line or of the text. -/
  | edge
  | wordBoundary
  /-- A class by a letter: digits, blanks or word characters. -/
  | lettered (negated : Bool)
  | set (negated : Bool) (content : CharSet)
  /-- A change of flags up to the end of the group. -/
  | flags (change : FlagChange)
  | repetition (inner : Pattern)
  | group (change : FlagChange) (inner : Pattern)
  | alternation (branches : List Pattern)
  | sequence (parts : List Pattern)

namespace FlagChange

/-- What a change does to a flag: sets it, clears it, or leaves it. -/
def value? (change : FlagChange) (flag : Char) : Option Bool :=
  if (change.text.takeWhile (· != '-')).contains flag then some true
  else if change.text.contains flag then some false
  else none

/-- Flags that may be changed: letter case, lines, greed, characters or bytes, blanks. -/
def letters : List Char :=
  ['i', 'm', 's', 'U', 'u', 'R', 'x']

/-- Whether a change is well formed: each flag and the hyphen at most once, and a flag last. -/
def isValid (change : FlagChange) : Bool :=
  change.text.all (fun c => letters.contains c || c == '-')
    && decide change.text.Nodup && change.text.getLast? != some '-'

end FlagChange

/-! ## Depth -/

namespace CharSet

mutual

/-- How deep brackets, unions and operations lie within each other. -/
def depth : CharSet → Nat
  | .bracketed _ content => content.depth + 1
  | .union items => depthOfItems items + 1
  | .operation left right => max left.depth right.depth + 1
  | .empty | .char _ | .range .. | .named _ | .lettered _ => 0

/-- The greatest depth of any item. -/
def depthOfItems : List CharSet → Nat
  | [] => 0
  | item :: rest => max item.depth (depthOfItems rest)

end

/-- Items as one set. -/
def ofItems : List CharSet → CharSet
  | [] => .empty
  | [item] => item
  | items => .union items

end CharSet

namespace Pattern

mutual

/-- How deep classes, repetitions, groups, alternations and sequences lie within each other. -/
def depth : Pattern → Nat
  | .set _ content => content.depth + 1
  | .repetition inner => inner.depth + 1
  | .group _ inner => inner.depth + 1
  | .alternation branches => depthOfParts branches + 1
  | .sequence parts => depthOfParts parts + 1
  | .empty | .char _ | .any | .edge | .wordBoundary | .lettered _ | .flags _ => 0

/-- The greatest depth of any part. -/
def depthOfParts : List Pattern → Nat
  | [] => 0
  | part :: rest => max part.depth (depthOfParts rest)

end

/-- Parts one after the other. -/
def ofParts : List Pattern → Pattern
  | [] => .empty
  | [part] => part
  | parts => .sequence parts

/-- Branches of which one is to match. -/
def ofBranches : List Pattern → Pattern
  | [branch] => branch
  | branches => .alternation branches

end Pattern

end AddRate
