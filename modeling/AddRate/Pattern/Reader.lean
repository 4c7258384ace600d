import AddRate.Pattern.Basic
import AddRate.Text.Alphanumeric
import AddRate.Text.Blank
import AddRate.Text.Numeral

/-!
# Reading patterns

The reader for regular expressions. It goes through a text from left to right with the groups and
the classes that are open, and takes at least one character at each step. Where the flag `x` is
set, blanks and comments between the signs of a pattern do not count.

Nothing that ends with a closing brace is read: counted repetitions and characters or classes in
braces are refused.
-/

namespace AddRate.Pattern

/-! ## Blanks and comments -/

/-- The text after blanks and comments. -/
def afterBlanks : (inComment : Bool) → List Char → List Char
  | _, [] => []
  | inComment, c :: rest =>
    if inComment then afterBlanks (c != '\n') rest
    else if Text.isBlank c then afterBlanks false rest
    else if c = '#' then afterBlanks true rest
    else c :: rest

/-- The text from the next sign on. -/
def skip (verbose : Bool) (text : List Char) : List Char :=
  if verbose then afterBlanks false text else text

/-- The sign that comes next. A comment's mark is passed over together with the blanks around it,
but its first other character is taken for a sign. -/
def nextSign? (verbose : Bool) (text : List Char) : Option Char :=
  if verbose then
    match text.dropWhile Text.isBlank with
    | '#' :: comment => ((comment.dropWhile Text.isBlank).head?).or text.head?
    | sign :: _ => some sign
    | [] => text.head?
  else
    text.head?

/-! ## Escapes -/

/-- What one sign, escaped or not, stands for. -/
inductive Sign where
  | char (member : PatternChar)
  | edge
  | wordBoundary
  | lettered (negated : Bool)

/-- Read `count` hexadecimal digits onto a value. -/
def readHex (verbose : Bool) : (count value : Nat) → List Char → Option (Nat × List Char)
  | 0, value, text => some (value, text)
  | count + 1, value, text =>
    match skip verbose text with
    | [] => none
    | c :: rest => do readHex verbose count (16 * value + (← Text.hexValue? c)) rest

/-- Read a character by its number, which has a fixed count of hexadecimal digits. -/
def readCode (verbose : Bool) (count : Nat) (text : List Char) : Option (Sign × List Char) := do
  let (value, rest) ← readHex verbose count 0 text
  if value.isValidChar then
    some (.char { char := Char.ofNat value, isByte := count == 2 }, rest)
  else
    none

/-- Whether a backslash may stand before a character that needs none: before all of ASCII apart
from letters, digits and angle brackets. -/
def isEscapable (c : Char) : Bool :=
  c.toNat < 128 && !c.isAlphanum && c != '<' && c != '>'

/-- Read what follows a backslash. -/
def readEscape (verbose : Bool) : List Char → Option (Sign × List Char)
  | [] => none
  | c :: rest =>
    match c with
    | 'x' => readCode verbose 2 rest
    | 'u' => readCode verbose 4 rest
    | 'U' => readCode verbose 8 rest
    | 'd' | 's' | 'w' => some (.lettered false, rest)
    | 'D' | 'S' | 'W' => some (.lettered true, rest)
    | 'a' => some (.char ⟨'\x07', false⟩, rest)
    | 'f' => some (.char ⟨'\x0C', false⟩, rest)
    | 't' => some (.char ⟨'\t', false⟩, rest)
    | 'n' => some (.char ⟨'\n', false⟩, rest)
    | 'r' => some (.char ⟨'\r', false⟩, rest)
    | 'v' => some (.char ⟨'\x0B', false⟩, rest)
    | 'A' | 'z' => some (.edge, rest)
    | 'b' | 'B' | '<' | '>' => some (.wordBoundary, rest)
    | c => if isEscapable c then some (.char ⟨c, false⟩, rest) else none

/-! ## Character classes -/

/-- A class whose closing bracket has not been read. -/
structure OpenSet where
  negated : Bool
  /-- Whether only hyphens have been read. -/
  atStart : Bool := true
  /-- The left side of an operation. -/
  left : Option CharSet := none
  /-- The items so far, the last one first. -/
  items : List CharSet := []

namespace OpenSet

def push (set : OpenSet) (item : CharSet) : OpenSet :=
  { set with atStart := false, items := item :: set.items }

/-- The content that has been read. -/
def content (set : OpenSet) : CharSet :=
  let right := CharSet.ofItems set.items.reverse
  match set.left with
  | none => right
  | some left => .operation left right

/-- The class after the sign of an operation. -/
def operated (set : OpenSet) : OpenSet :=
  { set with atStart := false, left := some set.content, items := [] }

end OpenSet

/-- The names of the classes that have one. -/
def setNames : List String :=
  ["alnum", "alpha", "ascii", "blank", "cntrl", "digit", "graph", "lower", "print", "punct",
    "space", "upper", "word", "xdigit"]

/-- Read a class by its name, after the opening bracket; its answer says whether it is negated. -/
def readNamed? : List Char → Option (Bool × List Char)
  | ':' :: text =>
    let (negated, text) :=
      match text with
      | '^' :: text => (true, text)
      | text => (false, text)
    match text.dropWhile (· != ':') with
    | ':' :: ']' :: rest =>
      if setNames.contains (String.ofList (text.takeWhile (· != ':'))) then
        some (negated, rest)
      else
        none
    | _ => none
  | _ => none

/-- Open a class, after its bracket. -/
def openSet (verbose : Bool) (text : List Char) : OpenSet × List Char :=
  match skip verbose text with
  | '^' :: rest => ({ negated := true }, rest)
  | rest => ({ negated := false }, rest)

/-- Read one sign in a class. -/
def readMember (verbose : Bool) : List Char → Option (Sign × List Char)
  | [] => none
  | '\\' :: rest => readEscape verbose rest
  | c :: rest => some (.char ⟨c, false⟩, rest)

def Sign.toItem? : Sign → Option CharSet
  | .char member => some (.char member)
  | .lettered negated => some (.lettered negated)
  | .edge | .wordBoundary => none

/-- Read a character, a class by a letter, or a range of characters. -/
def readItem (verbose : Bool) (text : List Char) : Option (CharSet × List Char) := do
  let (first, rest) ← readMember verbose text
  let single : Option (CharSet × List Char) := first.toItem?.map (·, rest)
  match skip verbose rest with
  | '-' :: afterHyphen =>
    let sign := nextSign? verbose afterHyphen
    if sign = some ']' ∨ sign = some '-' then
      single
    else
      match first, ← readMember verbose (skip verbose afterHyphen) with
      | .char first, (.char last, rest) =>
        if first.char ≤ last.char then some (.range first last, rest) else none
      | _, _ => none
  | _ => single

/-! ## Groups -/

/-- The parts of a group whose end has not been read. -/
structure Branches where
  /-- The branches that have ended, the last one first. -/
  ended : List Pattern := []
  /-- The parts of the branch that has not ended, the last one first. -/
  parts : List Pattern := []

namespace Branches

def push (branches : Branches) (part : Pattern) : Branches :=
  { branches with parts := part :: branches.parts }

def next (branches : Branches) : Branches :=
  { ended := Pattern.ofParts branches.parts.reverse :: branches.ended }

def close (branches : Branches) : Pattern :=
  .ofBranches branches.next.ended.reverse

end Branches

/-- A group whose end has not been read, with what is around it. -/
structure OpenGroup where
  change : FlagChange
  outer : Branches
  outerVerbose : Bool

/-- What has been read. -/
structure Progress where
  groups : List OpenGroup := []
  branches : Branches := {}
  /-- The classes that are open, the innermost one first. -/
  sets : List OpenSet := []
  verbose : Bool := false
  names : List (List Char) := []

namespace Progress

def push (progress : Progress) (part : Pattern) : Progress :=
  { progress with branches := progress.branches.push part }

def openGroup (progress : Progress) (change : FlagChange) : Progress :=
  let opened :=
    { change, outer := progress.branches, outerVerbose := progress.verbose : OpenGroup }
  { progress with
    groups := opened :: progress.groups
    branches := {}
    verbose := (change.value? 'x').getD progress.verbose }

/-- Close the innermost group. -/
def closeGroup? (progress : Progress) : Option Progress :=
  match progress.groups with
  | [] => none
  | innermost :: groups =>
    let closed := .group innermost.change progress.branches.close
    some { progress with
      groups, branches := innermost.outer.push closed, verbose := innermost.outerVerbose }

/-- The whole pattern, if nothing is open. -/
def finish? (progress : Progress) : Option Pattern :=
  if progress.groups.isEmpty && progress.sets.isEmpty then some progress.branches.close else none

end Progress

/-- Whether a character may stand in the name of a group, or at its start. -/
def isNameChar (first : Bool) (c : Char) : Bool :=
  if first then
    c == '_' || Text.isAlphabetic c
  else
    c == '_' || c == '.' || c == '[' || c == ']' || Text.isAlphanumeric c

/-- Whether a name can be given to a group. -/
def isName : List Char → Bool
  | [] => false
  | c :: rest => isNameChar true c && rest.all (isNameChar false)

/-- Open a group with a name, which no other group has. -/
def readName (progress : Progress) (text : List Char) : Option (Progress × List Char) :=
  let name := text.takeWhile (· != '>')
  match text.dropWhile (· != '>') with
  | '>' :: rest =>
    if isName name && !progress.names.contains name then
      some (({ progress with names := name :: progress.names }).openGroup ⟨[]⟩, rest)
    else
      none
  | _ => none

/-- Read changes of flags, up to the end of the group or for a group of their own. -/
def readFlags (progress : Progress) (text : List Char) : Option (Progress × List Char) :=
  let inFlags (c : Char) : Bool := c != ':' && c != ')'
  let change : FlagChange := ⟨text.takeWhile inFlags⟩
  if change.isValid then
    match text.dropWhile inFlags with
    | ':' :: rest => some (progress.openGroup change, rest)
    | ')' :: rest =>
      if change.text.isEmpty then
        none
      else
        let verbose := (change.value? 'x').getD progress.verbose
        some (({ progress with verbose }).push (.flags change), rest)
    | _ => none
  else
    none

/-- Read what follows an opening parenthesis. Looking ahead or behind is refused. -/
def readGroup (progress : Progress) (text : List Char) : Option (Progress × List Char) :=
  match skip progress.verbose text with
  | '?' :: '=' :: _ | '?' :: '!' :: _ | '?' :: '<' :: '=' :: _ | '?' :: '<' :: '!' :: _ => none
  | '?' :: 'P' :: '<' :: rest | '?' :: '<' :: rest => readName progress rest
  | '?' :: rest => readFlags progress rest
  | rest => some (progress.openGroup ⟨[]⟩, rest)

/-! ## Steps -/

/-- Repeat the last part; a question mark after the sign makes it lazy. -/
def readRepetition (progress : Progress) (text : List Char) : Option (Progress × List Char) :=
  let rest :=
    match text with
    | '?' :: rest => rest
    | rest => rest
  match progress.branches.parts with
  | [] | .flags _ :: _ => none
  | part :: parts =>
    some ({ progress with
      branches := { progress.branches with parts := .repetition part :: parts } }, rest)

def Sign.toPattern : Sign → Pattern
  | .char member => .char member
  | .edge => .edge
  | .wordBoundary => .wordBoundary
  | .lettered negated => .lettered negated

/-- Read on outside of classes. -/
def readPart (progress : Progress) : List Char → Option (Progress × List Char)
  | [] => none
  | c :: rest =>
    match c with
    | '(' => readGroup progress rest
    | ')' => progress.closeGroup?.map (·, rest)
    | '|' => some ({ progress with branches := progress.branches.next }, rest)
    | '[' =>
      let (opened, rest) := openSet progress.verbose rest
      some ({ progress with sets := [opened] }, rest)
    | '?' | '*' | '+' => readRepetition progress rest
    | '\x7b' => none
    | '.' => some (progress.push .any, rest)
    | '^' | '$' => some (progress.push .edge, rest)
    | '\\' => (readEscape progress.verbose rest).map fun (sign, rest) =>
      (progress.push sign.toPattern, rest)
    | c => some (progress.push (.char ⟨c, false⟩), rest)

/-- Close the innermost class. -/
def closeSet (progress : Progress) (closed : OpenSet) : List OpenSet → Progress
  | [] => ({ progress with sets := [] }).push (.set closed.negated closed.content)
  | next :: sets =>
    { progress with sets := next.push (.bracketed closed.negated closed.content) :: sets }

/-- Read on inside a class. -/
def readInSet (progress : Progress) (current : OpenSet) (outer : List OpenSet)
    (text : List Char) : Option (Progress × List Char) :=
  let continued (current : OpenSet) : Progress := { progress with sets := current :: outer }
  match current.atStart, text with
  | true, '-' :: rest =>
    some (continued { current.push (.char ⟨'-', false⟩) with atStart := true }, rest)
  | atStart, ']' :: rest =>
    if atStart && current.items.isEmpty then
      some (continued (current.push (.char ⟨']', false⟩)), rest)
    else
      some (closeSet progress current outer, rest)
  | _, '[' :: rest =>
    match readNamed? rest with
    | some (negated, rest) => some (continued (current.push (.named negated)), rest)
    | none =>
      let (inner, rest) := openSet progress.verbose rest
      some ({ progress with sets := inner :: { current with atStart := false } :: outer }, rest)
  | _, '&' :: '&' :: rest | _, '-' :: '-' :: rest | _, '~' :: '~' :: rest =>
    some (continued current.operated, rest)
  | _, _ => (readItem progress.verbose text).map fun (item, rest) =>
    (continued (current.push item), rest)

def step (progress : Progress) (text : List Char) : Option (Progress × List Char) :=
  match progress.sets with
  | [] => readPart progress text
  | innermost :: outer => readInSet progress innermost outer text

/-- Read on to the end of the text. -/
def readAll (progress : Progress) (text : List Char) : Option Pattern :=
  match skip progress.verbose text with
  | [] => progress.finish?
  | rest =>
    match step progress rest with
    | none => none
    | some (progress, left) =>
      if _shorter : left.length < text.length then readAll progress left else none
termination_by text.length

def parse? (text : List Char) : Option Pattern :=
  readAll {} text

end AddRate.Pattern
