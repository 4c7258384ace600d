import AddRate.Binary.Shortest
import AddRate.Json.Basic

/-!
# Doubles as JSON numbers

A finite double is written as its shortest decimal: with a point when the decimal point falls
within sixteen digits or at most four zeros precede the digits, otherwise with an exponent that
always carries its sign. Of two decimals equally near to the double, the one with an even last
digit is taken. JSON has no number for the rest, so they become `null`.
-/

namespace AddRate.Json

open Binary

/-- Digits with a point after the first of them. -/
def pointed : List Char → List Char
  | first :: second :: rest => first :: '.' :: second :: rest
  | digits => digits

/-- An exponent mark with a signed exponent. -/
def exponentChars (exponent : Int) : List Char :=
  'e' :: (if exponent < 0 then '-' else '+') :: Nat.toDigits 10 exponent.natAbs

/-- A positive decimal as a number. `point` is the place of the decimal point, counted from
before the first digit. -/
def decimalChars (decimal : Double.Decimal) : List Char :=
  let digits := Nat.toDigits 10 decimal.digits
  let point : Int := digits.length + decimal.exponent
  if 0 ≤ decimal.exponent ∧ point ≤ 16 then
    digits ++ List.replicate decimal.exponent.toNat '0' ++ ['.', '0']
  else if 0 < point ∧ point ≤ 16 then
    digits.take point.toNat ++ '.' :: digits.drop point.toNat
  else if -5 < point ∧ point ≤ 0 then
    ['0', '.'] ++ List.replicate (-point).toNat '0' ++ digits
  else
    pointed digits ++ exponentChars (point - 1)

def ofDouble (x : Double) : Json :=
  if x.isNaN || x.isInfinite then
    .null
  else
    let sign := if x.isNegative then ['-'] else []
    let size := if x.magnitude = 0 then ['0', '.', '0'] else decimalChars (x.shortest .toEven)
    .number (sign ++ size)

end AddRate.Json
