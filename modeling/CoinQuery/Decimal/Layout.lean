import CoinQuery.Decimal.Shortest

/-!
# The layout of numbers

How the shortest digits of a number are written down: with the point where it stands, or in
scientific form with an exponent. What an output decides about this is one value of `Layout`, and it
stands where that output is written.
-/

namespace CoinQuery

structure Layout where
  /-- Whether a number whose first digit stands for this power of ten is written positionally. -/
  positional : Int → Bool
  /-- Whether a whole number written positionally ends in a point and a zero. -/
  wholePoint : Bool
  tie : TieRule

namespace Layout

def zeros (n : Nat) : String := String.ofList (List.replicate n '0')

/-- A decimal in positional form: `digits` with the point `exponent` places from their end. -/
def positionalText (wholePoint : Bool) (d : Decimal) : String :=
  let digits := toString d.digits
  let places := (-d.exponent).toNat
  if 0 ≤ d.exponent then
    digits ++ zeros d.exponent.toNat ++ if wholePoint then ".0" else ""
  else if digits.length ≤ places then
    "0." ++ zeros (places - digits.length) ++ digits
  else
    let cs := digits.toList
    let whole := cs.length - places
    String.ofList (cs.take whole) ++ "." ++ String.ofList (cs.drop whole)

/-- A decimal in scientific form: one digit before the point, and a signed exponent. -/
def scientificText (d : Decimal) (leading : Int) : String :=
  let mantissa := match (toString d.digits).toList with
    | [] => ""
    | [c] => String.ofList [c]
    | c :: cs => String.ofList (c :: '.' :: cs)
  mantissa ++ (if leading < 0 then "e-" else "e+") ++ toString leading.natAbs

/-- A finite number without its sign. -/
def magnitudeText (layout : Layout) (x : Binary64) : String :=
  if x.magnitude = 0 then positionalText layout.wholePoint ⟨0, 0⟩
  else
    let d := Decimal.shortest layout.tie x
    let leading := d.exponent + (toString d.digits).length - 1
    if layout.positional leading then positionalText layout.wholePoint d
    else scientificText d leading

def text (layout : Layout) (x : Binary64) : String :=
  if x.isNaN then "NaN"
  else (if x.isNegative then "-" else "") ++
    if x.isFinite then layout.magnitudeText x else "inf"

end Layout

end CoinQuery
