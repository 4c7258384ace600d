import AddRate.Diagnostics.FieldValue
import AddRate.Text.Alphanumeric
import AddRate.Text.Blank
import AddRate.Text.Cut
import AddRate.Text.Lowercase

/-!
# Directives of a diagnostics filter

A directive lets diagnostics through up to a level: all of them, those of a target, or those from
within a span or with a field. In full it reads `target[span{field=value}]=level`, and every
part may be missing. Of two directives for one diagnostic the more specific one counts.
-/

namespace AddRate.Diagnostics

inductive Level where
  | off
  | error
  | warn
  | info
  | debug
  | trace
  deriving DecidableEq, Repr

namespace Level

/-- All levels; the number of each is its place. -/
def all : List Level :=
  [.off, .error, .warn, .info, .debug, .trace]

def name : Level → String
  | .off => "off"
  | .error => "error"
  | .warn => "warn"
  | .info => "info"
  | .debug => "debug"
  | .trace => "trace"

/-- The level of a number or of a name in any letter case. -/
def parse? (text : List Char) : Option Level :=
  match Text.readUnsignedChars UInt64.size text with
  | .ok number => all[number]?
  | .error _ => all.find? (·.name == Text.asciiLowercase (String.ofList text))

end Level

/-- A field that a diagnostic must have, perhaps with a value. -/
structure FieldMatch where
  name : String
  value : Option FieldValue := none
  deriving DecidableEq, Repr

namespace FieldMatch

/-- Read a name, or a name and a value with an equals sign between them; what follows a second
equals sign is ignored. -/
def parse? (text : List Char) : Option FieldMatch :=
  let name := String.ofList (text.takeWhile (· != '='))
  match text.dropWhile (· != '=') with
  | [] => some { name }
  | _ :: rest =>
    (FieldValue.parse? (rest.takeWhile (· != '='))).map fun value => { name, value := some value }

def text (field : FieldMatch) : String :=
  field.name ++ (field.value.map fun value => "=" ++ value.text).getD ""

/-- Fields without a value come first, then names decide, then values. -/
def order (left right : FieldMatch) : Ordering :=
  ((compare left.value.isSome right.value.isSome).then (compare left.name right.name)).then <|
    match left.value, right.value with
    | some left, some right => left.order right
    | _, _ => .eq

end FieldMatch

structure Directive where
  target : Option String := none
  span : Option String := none
  field : Option FieldMatch := none
  level : Level := .trace
  deriving DecidableEq, Repr

namespace Directive

/-! ## Reading -/

/-- Why a directive was not read. -/
inductive Failure where
  | malformed
  /-- A part was to be cut out inside a character. -/
  | splitCharacter
  deriving DecidableEq, Repr

/-- Where the reader of a directive is; a number is the place where a part began. -/
inductive Phase where
  | start
  | levelOrTarget (start : Nat)
  | inSpan (start : Nat)
  | inField (start : Nat)
  | afterField
  | afterSpan
  | inLevel (start : Nat)

/-- Whether a directive may start with a character, apart from an opening bracket. -/
def startsWith (c : Char) : Bool :=
  c == '-' || c == ':' || c == '_' || Text.isAlphanumeric c

/-- The part of a text between two places. -/
def part (text : List Char) (start stop : Nat) : Except Failure (List Char) :=
  ((Text.cut? text start stop).map .ok).getD (.error .splitCharacter)

/-- The part of a text from a place on. -/
def lastPart (text : List Char) (start : Nat) : Except Failure (List Char) :=
  ((Text.dropBytes? start text).map .ok).getD (.error .splitCharacter)

/-- What was read of a part, if it could be read. -/
def orMalformed {α : Type} (read : Option α) : Except Failure α :=
  (read.map .ok).getD (.error .malformed)

/-- A part as a string, unless it is empty. -/
def nonempty? (part : List Char) : Option String :=
  if part.isEmpty then none else some (String.ofList part)

/-- Read the character at a place. Places are counted in bytes and without the blanks around the
directive, but parts are cut from `text`, where the leading blanks have not been removed. -/
def readChar (text : List Char) (directive : Directive) (phase : Phase) (place : Nat) (c : Char) :
    Except Failure (Directive × Phase) := do
  match phase, c with
  | .start, '[' => return (directive, .inSpan (place + 1))
  | .start, c =>
    if startsWith c then return (directive, .levelOrTarget place) else throw .malformed
  | .levelOrTarget start, '=' =>
    let target := String.ofList (← part text start place)
    return ({ directive with target := some target }, .inLevel (place + 1))
  | .levelOrTarget start, '[' =>
    let target := String.ofList (← part text start place)
    return ({ directive with target := some target }, .inSpan (place + 1))
  | .inSpan start, ']' =>
    let span := String.ofList (← part text start place)
    return ({ directive with span := some span }, .afterSpan)
  | .inSpan start, '\x7b' =>
    let span := nonempty? (← part text start place)
    return ({ directive with span }, .inField (place + 1))
  | .inField start, '\x7d' =>
    let field ← part text start place
    if field.isEmpty then
      throw .malformed
    else
      return ({ directive with field := some (← orMalformed (FieldMatch.parse? field)) },
        .afterField)
  | .afterField, ']' => return (directive, .afterSpan)
  | .afterSpan, '=' => return (directive, .inLevel (place + 1))
  | .afterField, _ | .afterSpan, _ => throw .malformed
  | phase, _ => return (directive, phase)

/-- Read characters from a place on. -/
def readChars (text : List Char) :
    Directive → Phase → (place : Nat) → List Char → Except Failure (Directive × Phase)
  | directive, phase, _, [] => .ok (directive, phase)
  | directive, phase, place, c :: rest => do
    let (directive, phase) ← readChar text directive phase place c
    readChars text directive phase (place + c.utf8Size) rest

/-- Finish a directive at the end of its text. A word alone is a level if it can be one, and
otherwise a target, all of whose diagnostics are let through. -/
def finish (text : List Char) (directive : Directive) : Phase → Except Failure Directive
  | .levelOrTarget start => do
    let word ← lastPart text start
    match Level.parse? word with
    | some level => return { directive with level }
    | none => return { directive with target := some (String.ofList word) }
  | .inLevel start => do
    let word ← lastPart text start
    if word.isEmpty then
      return directive
    else
      return { directive with level := ← orMalformed (Level.parse? word) }
  | .afterSpan => .ok directive
  | _ => .error .malformed

def parse (text : List Char) : Except Failure Directive := do
  let (directive, phase) ← readChars text {} .start 0 (Text.trimChars text)
  finish text directive phase

/-! ## Kinds and order -/

/-- Whether a directive looks at spans or fields. -/
def isDynamic (directive : Directive) : Bool :=
  directive.span.isSome || directive.field.isSome

/-- Whether a directive can be decided without a span or a field's value. -/
def isStatic (directive : Directive) : Bool :=
  directive.span.isNone && directive.field.all (·.value.isNone)

/-- Specific directives come before general ones: those with a longer target, with a span, with a
field. Among equally specific ones the later names come first. -/
def order (left right : Directive) : Ordering :=
  let length (directive : Directive) := directive.target.map String.utf8ByteSize
  let fields :=
    match left.field, right.field with
    | some left, some right => left.order right
    | _, _ => .eq
  ((compare (length right) (length left)).then
    (compare right.span.isSome left.span.isSome)).then <|
  ((compare right.field.isSome left.field.isSome).then
    (compare right.target left.target)).then <|
  (compare right.span left.span).then fields.swap

/-! ## Writing -/

/-- The brackets with the span and the field. -/
def bracketText (directive : Directive) : String :=
  if directive.isDynamic then
    let field := directive.field.map fun field => "\x7b" ++ field.text ++ "\x7d"
    "[" ++ directive.span.getD "" ++ field.getD "" ++ "]"
  else
    ""

def text (directive : Directive) : String :=
  let scope := directive.target.getD "" ++ directive.bracketText
  if directive.target.isSome || directive.isDynamic then
    scope ++ "=" ++ directive.level.name
  else
    directive.level.name

end Directive

end AddRate.Diagnostics
