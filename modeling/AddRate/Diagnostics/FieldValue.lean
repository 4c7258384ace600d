import AddRate.Binary.Decimal
import AddRate.Pattern.Support
import AddRate.Text.Numeral

/-!
# Field values

The value that a diagnostic's field must have. Text that reads as a truth value or a number asks
for that value, whichever way it is written; any other text must be a pattern that can be used.
-/

namespace AddRate.Diagnostics

open Binary

/-- What a field's value is compared with. -/
inductive FieldValue where
  | flag (value : Bool)
  | double (value : Double)
  | notANumber
  | count (value : Nat)
  /-- The negative of a positive number, or zero when written with a minus sign. -/
  | negative (size : Nat)
  | pattern (text : String)
  deriving DecidableEq, Repr

namespace FieldValue

/-- A negative integer of 64 bits. -/
def readNegative? : List Char → Option Nat
  | '-' :: digits =>
    if digits.isEmpty then none else (Text.readDigits 0x8000000000000001 0 digits).toOption
  | _ => none

/-- The value that a text stands for: the first reading that fits. -/
def parse? (text : List Char) : Option FieldValue :=
  if text = ['t', 'r', 'u', 'e'] then
    some (.flag true)
  else if text = ['f', 'a', 'l', 's', 'e'] then
    some (.flag false)
  else
    match Text.readUnsignedChars UInt64.size text, readNegative? text, Double.read? text with
    | .ok value, _, _ => some (.count value)
    | _, some size, _ => some (.negative size)
    | _, _, some value => some (if value.isNaN then .notANumber else .double value)
    | _, _, _ => if Pattern.accepts text then some (.pattern (String.ofList text)) else none

def text : FieldValue → String
  | .flag value => if value then "true" else "false"
  | .double value => value.inFull
  | .notANumber => "NaN"
  | .count value => toString value
  | .negative size => if size = 0 then "0" else "-" ++ toString size
  | .pattern text => text

/-- The place of a value's kind in the order of values. -/
def rank : FieldValue → Nat
  | .flag _ => 0
  | .double _ => 1
  | .notANumber => 2
  | .count _ => 3
  | .negative _ => 4
  | .pattern _ => 5

/-- The place of a value among those of its kind, as far as a number tells. -/
def position : FieldValue → Int
  | .flag value => if value then 1 else 0
  | .double value => if value.isNegative then -value.magnitude else value.magnitude
  | .notANumber => 0
  | .count value => value
  | .negative size => -size
  | .pattern _ => 0

/-- The order of values: by kind, then by number, then by the text of a pattern. -/
def order (left right : FieldValue) : Ordering :=
  ((compare left.rank right.rank).then (compare left.position right.position)).then <|
    match left, right with
    | .pattern left, .pattern right => compare left right
    | _, _ => .eq

end FieldValue

end AddRate.Diagnostics
