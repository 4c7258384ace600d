import AddRate.Binary.Double

/-!
# Fixed decimal places

The text of a double with a fixed number of decimal places: the exact binary value is rounded
once, ties to even, and the sign of a negative value is kept even when all its digits vanish.
-/

namespace AddRate.Binary.Double

/-- A count with zeros put before it up to a width. -/
def paddedDigits (width count : Nat) : List Char :=
  let digits := Nat.toDigits 10 count
  List.replicate (width - digits.length) '0' ++ digits

def fixedDigits (places : Nat) (x : Double) : List Char :=
  let grid := Nat.pow 10 places
  let scaled := divRound .toEven (x.units * grid) binary64.unitsPerOne
  Nat.toDigits 10 (scaled / grid) ++ '.' :: paddedDigits places (scaled % grid)

def fixed (places : Nat) (x : Double) : String :=
  if x.isNaN then
    "NaN"
  else
    let sign := if x.isNegative then "-" else ""
    let size := if x.isInfinite then "inf" else String.ofList (x.fixedDigits places)
    sign ++ size

end AddRate.Binary.Double
