import AddRate.Json.Token

/-!
# Reading JSON

The reader takes one token at a time and holds the arrays and objects that are still open as a
list of frames, the innermost first. It accepts nesting of any depth.
-/

namespace AddRate.Json

/-- An array or object that is still open, with what it holds so far in reverse. -/
inductive Frame where
  | array (items : List Json)
  | object (members : List (Option (List Char) × Json))
  /-- An object with a name whose value is under way. -/
  | member (members : List (Option (List Char) × Json)) (name : Option (List Char))

/-- What may come next. -/
inductive Awaiting where
  | value
  | valueOrClose
  | name
  | nameOrClose
  | colon
  | separator

/-- How far a text has been read. -/
inductive Reading where
  | unfinished (awaiting : Awaiting) (frames : List Frame)
  | done (value : Json)

namespace Reading

def start : Reading :=
  .unfinished .value []

/-- Hand a finished value to the innermost open frame. -/
def deliver (value : Json) : List Frame → Option Reading
  | [] => some (.done value)
  | .array items :: frames => some (.unfinished .separator (.array (value :: items) :: frames))
  | .member members name :: frames =>
    some (.unfinished .separator (.object ((name, value) :: members) :: frames))
  | .object _ :: _ => none

/-- Read a token where a value must start. -/
def startValue (frames : List Frame) : Token → Option Reading
  | .openArray => some (.unfinished .valueOrClose (.array [] :: frames))
  | .openObject => some (.unfinished .nameOrClose (.object [] :: frames))
  | .string text => deliver (.string text) frames
  | .scalar value => deliver value frames
  | _ => none

/-- Close the innermost open frame. -/
def close (frames : List Frame) : Token → Option Reading
  | .closeArray =>
    match frames with
    | .array items :: frames => deliver (.array items.reverse) frames
    | _ => none
  | .closeObject =>
    match frames with
    | .object members :: frames => deliver (.object members.reverse) frames
    | _ => none
  | _ => none

/-- Read a token where the name of a member must stand. -/
def startMember (frames : List Frame) : Token → Option Reading
  | .string name =>
    match frames with
    | .object members :: frames => some (.unfinished .colon (.member members name :: frames))
    | _ => none
  | _ => none

def step (reading : Reading) (token : Token) : Option Reading :=
  match reading with
  | .done _ => none
  | .unfinished .value frames => startValue frames token
  | .unfinished .valueOrClose frames =>
    match token with
    | .closeArray => close frames token
    | _ => startValue frames token
  | .unfinished .name frames => startMember frames token
  | .unfinished .nameOrClose frames =>
    match token with
    | .closeObject => close frames token
    | _ => startMember frames token
  | .unfinished .colon frames =>
    match token with
    | .colon => some (.unfinished .value frames)
    | _ => none
  | .unfinished .separator frames =>
    match token, frames with
    | .comma, .array _ :: _ => some (.unfinished .value frames)
    | .comma, .object _ :: _ => some (.unfinished .name frames)
    | _, _ => close frames token

/-- Read tokens one after the other. -/
def steps (reading : Reading) : List Token → Option Reading
  | [] => some reading
  | token :: rest => do (← reading.step token).steps rest

/-- The value of a text that has been read to its end. -/
def value? : Reading → Option Json
  | .done value => some value
  | .unfinished .. => none

end Reading

/-- The value that a list of tokens spells. -/
def ofTokens? (tokens : List Token) : Option Json := do
  (← Reading.start.steps tokens).value?

/-- The value that a text spells. -/
def ofChars? (text : List Char) : Option Json := do
  ofTokens? (← Lexing.between.tokens? text)

def parse? (text : String) : Option Json :=
  ofChars? text.toList

end AddRate.Json
