import AddRate.Json.Basic
import AddRate.Text.Numeral

/-!
# JSON tokens

The lexer takes one character at a time. Its state holds what has been read of the token that is
under way; a number or a word ends at the first character that cannot continue it, and that
character starts the next token.
-/

namespace AddRate.Json

inductive Token where
  | openArray
  | closeArray
  | openObject
  | closeObject
  | comma
  | colon
  | string (text : Option (List Char))
  | scalar (value : Json)

/-! ## Strings -/

/-- What a string is written with: characters as they are, and escaped code units. -/
inductive Piece where
  | char (c : Char)
  | unit (code : Nat)

/-- The text that the pieces of a string spell. Two units that form a surrogate pair spell one
character; half a pair alone spells nothing. -/
def Piece.text? : List Piece → Option (List Char)
  | [] => some []
  | .char c :: rest => (text? rest).map (c :: ·)
  | .unit high :: rest =>
    if 0xD800 ≤ high ∧ high < 0xDC00 then
      match rest with
      | .unit low :: rest =>
        if 0xDC00 ≤ low ∧ low < 0xE000 then
          (text? rest).map
            (Char.ofNat (0x10000 + (high - 0xD800) * 0x400 + (low - 0xDC00)) :: ·)
        else
          none
      | _ => none
    else if 0xDC00 ≤ high ∧ high < 0xE000 then
      none
    else
      (text? rest).map (Char.ofNat high :: ·)

/-- The character that a backslash and a letter stand for. -/
def escaped? : Char → Option Char
  | '"' => some '"'
  | '\\' => some '\\'
  | '/' => some '/'
  | 'b' => some '\x08'
  | 'f' => some '\x0C'
  | 'n' => some '\n'
  | 'r' => some '\r'
  | 't' => some '\t'
  | _ => none

/-! ## Numbers -/

/-- How far a number has been read. -/
inductive NumberPhase where
  | sign
  /-- A zero, after which no digit may follow. -/
  | zero
  /-- Digits that start with none of zero. -/
  | whole
  /-- The point, before any decimal place. -/
  | point
  | fraction
  | mark
  | markSign
  | exponent
  deriving DecidableEq

namespace NumberPhase

/-- The phase in which a number starts. -/
def start? (c : Char) : Option NumberPhase :=
  if c = '-' then some .sign
  else if c = '0' then some .zero
  else if c.isDigit then some .whole
  else none

/-- The phase after one more character, if the number goes on with it. -/
def next? (phase : NumberPhase) (c : Char) : Option NumberPhase :=
  match phase with
  | .sign => if c = '0' then some .zero else if c.isDigit then some .whole else none
  | .zero => if c = '.' then some .point else if c = 'e' ∨ c = 'E' then some .mark else none
  | .whole =>
    if c.isDigit then some .whole
    else if c = '.' then some .point
    else if c = 'e' ∨ c = 'E' then some .mark
    else none
  | .point => if c.isDigit then some .fraction else none
  | .fraction =>
    if c.isDigit then some .fraction else if c = 'e' ∨ c = 'E' then some .mark else none
  | .mark =>
    if c = '+' ∨ c = '-' then some .markSign else if c.isDigit then some .exponent else none
  | .markSign => if c.isDigit then some .exponent else none
  | .exponent => if c.isDigit then some .exponent else none

/-- Whether a number may end here. -/
def complete : NumberPhase → Bool
  | .zero | .whole | .fraction | .exponent => true
  | _ => false

end NumberPhase

/-! ## The lexer -/

/-- What the lexer has read of the token under way; characters and pieces are held in reverse. -/
inductive Lexing where
  | between
  | word (letters : List Char)
  | number (phase : NumberPhase) (digits : List Char)
  | string (pieces : List Piece)
  | escape (pieces : List Piece)
  | unit (pieces : List Piece) (missing : Nat) (code : Nat)

namespace Lexing

/-- The blanks allowed between tokens. -/
def isSpace (c : Char) : Bool :=
  c == ' ' || c == '\n' || c == '\t' || c == '\r'

/-- Start a token, or take a whole one of a single character. -/
def start (c : Char) : Option (Lexing × List Token) :=
  if isSpace c then some (.between, [])
  else if c = '[' then some (.between, [.openArray])
  else if c = ']' then some (.between, [.closeArray])
  else if c = '\x7b' then some (.between, [.openObject])
  else if c = '\x7d' then some (.between, [.closeObject])
  else if c = ',' then some (.between, [.comma])
  else if c = ':' then some (.between, [.colon])
  else if c = '"' then some (.string [], [])
  else if c.isLower then some (.word [c], [])
  else (NumberPhase.start? c).map fun phase => (.number phase [c], [])

/-- The token of a finished word. -/
def wordToken? (letters : List Char) : Option Token :=
  match letters.reverse with
  | ['n', 'u', 'l', 'l'] => some (.scalar .null)
  | ['t', 'r', 'u', 'e'] => some (.scalar (.bool true))
  | ['f', 'a', 'l', 's', 'e'] => some (.scalar (.bool false))
  | _ => none

/-- The token of a number that ends here. -/
def numberToken? (phase : NumberPhase) (digits : List Char) : Option Token :=
  if phase.complete then some (.scalar (.number digits.reverse)) else none

/-- Read one character: the new state and the tokens that it completes. -/
def step (state : Lexing) (c : Char) : Option (Lexing × List Token) :=
  match state with
  | .between => start c
  | .word letters =>
    if c.isLower then
      some (.word (c :: letters), [])
    else do
      let token ← wordToken? letters
      let (next, tokens) ← start c
      return (next, token :: tokens)
  | .number phase digits =>
    match phase.next? c with
    | some next => some (.number next (c :: digits), [])
    | none => do
      let token ← numberToken? phase digits
      let (next, tokens) ← start c
      return (next, token :: tokens)
  | .string pieces =>
    if c = '"' then some (.between, [.string (Piece.text? pieces.reverse)])
    else if c = '\\' then some (.escape pieces, [])
    else if c.toNat < 0x20 then none
    else some (.string (.char c :: pieces), [])
  | .escape pieces =>
    if c = 'u' then
      some (.unit pieces 4 0, [])
    else
      (escaped? c).map fun meant => (.string (.char meant :: pieces), [])
  | .unit pieces missing code =>
    (Text.hexValue? c).map fun digit =>
      let code := code * 16 + digit
      if missing ≤ 1 then (.string (.unit code :: pieces), [])
      else (.unit pieces (missing - 1) code, [])

/-- The tokens completed by the end of the text. -/
def finish (state : Lexing) : Option (List Token) :=
  match state with
  | .between => some []
  | .word letters => (wordToken? letters).map ([·])
  | .number phase digits => (numberToken? phase digits).map ([·])
  | .string _ | .escape _ | .unit .. => none

/-- The tokens of the rest of a text. -/
def tokens? (state : Lexing) : List Char → Option (List Token)
  | [] => state.finish
  | c :: rest => do
    let (next, done) ← state.step c
    let more ← next.tokens? rest
    return done ++ more

end Lexing

end AddRate.Json
