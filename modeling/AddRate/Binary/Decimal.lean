import AddRate.Binary.Shortest

/-!
# Decimals read and written in full

The reader for decimal text, which rounds once to the nearest double, and the shortest decimal of
a double written without an exponent, however far its digits lie from the point.
-/

namespace AddRate.Binary.Double

/-- The double nearest to `digits · 10 ^ exponent`. Exponents beyond the range of doubles are
decided without computing the power. -/
def ofDecimal (decimal : Decimal) : Double :=
  let length : Int := (Nat.toDigits 10 decimal.digits).length
  if decimal.digits = 0 ∨ length + decimal.exponent < -400 then
    zero
  else if 400 < length + decimal.exponent then
    ⟨.ofNat binary64.infinity⟩
  else
    ofRatio (decimal.digits * Nat.pow 10 decimal.exponent.toNat)
      (Nat.pow 10 (-decimal.exponent).toNat)

/-- The double with the sign bit set. -/
def negated (x : Double) : Double :=
  ⟨x.bits ||| 0x8000000000000000⟩

/-- An exponent: a sign that may be left out, then digits. -/
def readExponent? (text : List Char) : Option Int :=
  let (negative, digits) :=
    match text with
    | '-' :: digits => (true, digits)
    | '+' :: digits => (false, digits)
    | digits => (false, digits)
  if digits.isEmpty || !digits.all Char.isDigit then
    none
  else
    let size : Int := Nat.ofDigitChars 10 digits 0
    some (if negative then -size else size)

/-- A decimal without a sign: digits with or without a point among them or around them, and an
exponent that may be left out. -/
def readDecimal? (text : List Char) : Option Decimal :=
  let whole := text.takeWhile Char.isDigit
  let (fraction, rest) :=
    match text.dropWhile Char.isDigit with
    | '.' :: rest => (rest.takeWhile Char.isDigit, rest.dropWhile Char.isDigit)
    | rest => ([], rest)
  let digits := whole ++ fraction
  let exponent? : Option Int :=
    match rest with
    | [] => some 0
    | 'e' :: exponent | 'E' :: exponent => readExponent? exponent
    | _ => none
  if digits.isEmpty then
    none
  else
    exponent?.map fun exponent => ⟨Nat.ofDigitChars 10 digits 0, exponent - fraction.length⟩

/-- A double without a sign: a decimal, or a name of infinity or of no number, in any letter
case. -/
def readMagnitude? (text : List Char) : Option Double :=
  let word := String.ofList (text.map Char.toLower)
  if word = "inf" ∨ word = "infinity" then
    some ⟨.ofNat binary64.infinity⟩
  else if word = "nan" then
    some ⟨.ofNat (binary64.infinity + 1)⟩
  else
    (readDecimal? text).map ofDecimal

def read? (text : List Char) : Option Double :=
  match text with
  | '-' :: size => (readMagnitude? size).map negated
  | '+' :: size => readMagnitude? size
  | size => readMagnitude? size

/-- A positive decimal without an exponent. -/
def Decimal.inFull (decimal : Decimal) : List Char :=
  let digits := Nat.toDigits 10 decimal.digits
  let point : Int := digits.length + decimal.exponent
  if 0 ≤ decimal.exponent then
    digits ++ List.replicate decimal.exponent.toNat '0'
  else if 0 < point then
    digits.take point.toNat ++ '.' :: digits.drop point.toNat
  else
    ['0', '.'] ++ List.replicate (-point).toNat '0' ++ digits

/-- The shortest text of a double that has no exponent. Of two texts equally near to the double it
is the one farther from zero. -/
def inFull (x : Double) : String :=
  if x.isNaN then
    "NaN"
  else
    let size :=
      if x.isInfinite then ['i', 'n', 'f']
      else if x.magnitude = 0 then ['0']
      else (x.shortest .upward).inFull
    String.ofList (if x.isNegative then '-' :: size else size)

end AddRate.Binary.Double
