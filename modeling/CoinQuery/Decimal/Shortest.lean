import CoinQuery.Decimal.Binary64

/-!
# The shortest decimal that reads back

A decimal reads back as a binary64 number when it lies among the reals that round to that number:
between the midpoints to the two neighbours, the midpoints included exactly when the significand is
even. `shortest` gives the decimal with the fewest digits that does, the nearest of them to the
number, and at equal distance the one that the tie rule names.

All comparisons are exact, on natural numbers: a decimal and a binary number are brought to a common
denominator by multiplying with the powers of ten and two that stand on the other side.
-/

namespace CoinQuery

/-- The number `digits * 10 ^ exponent`. -/
structure Decimal where
  digits : Nat
  exponent : Int
deriving DecidableEq

/-- Which of two equally near decimals is taken. -/
inductive TieRule
  | even
  | up
deriving DecidableEq

namespace Decimal

/-- Compares the decimal with `m * 2 ^ q`. -/
def compareBinary (d : Decimal) (m : Nat) (q : Int) : Ordering :=
  compare (d.digits * Nat.pow 10 d.exponent.toNat * Nat.pow 2 (-q).toNat)
    (m * Nat.pow 2 q.toNat * Nat.pow 10 (-d.exponent).toNat)

/-- Whether the decimal lies among the reals that round to `x`. -/
def readsBackAs (d : Decimal) (x : Binary64) : Bool :=
  let low := 4 * x.significand - if x.isAboveNarrowGap then 1 else 2
  let high := 4 * x.significand + 2
  let atEnds := x.significand % 2 == 0
  match d.compareBinary low (x.scale - 2), d.compareBinary high (x.scale - 2) with
  | .gt, .lt => true
  | .eq, _ => atEnds
  | _, .eq => atEnds
  | _, _ => false

/-- The greatest decimal with this exponent that is not above `x`. -/
def floorOf (x : Binary64) (exponent : Int) : Decimal where
  digits := x.significand * Nat.pow 2 x.scale.toNat * Nat.pow 10 (-exponent).toNat /
    (Nat.pow 2 (-x.scale).toNat * Nat.pow 10 exponent.toNat)
  exponent := exponent

def next (d : Decimal) : Decimal := { d with digits := d.digits + 1 }

/-- The nearer to `x` of a decimal below it and the next one above. -/
def nearer (tie : TieRule) (x : Binary64) (below : Decimal) : Decimal :=
  let midpoint : Decimal := ⟨2 * below.digits + 1, below.exponent⟩
  match midpoint.compareBinary (2 * x.significand) x.scale, tie with
  | .gt, _ => below
  | .lt, _ => below.next
  | .eq, .even => if below.digits % 2 = 0 then below else below.next
  | .eq, .up => below.next

/-- The decimal with this exponent that reads back as `x`, if there is one. -/
def onGrid? (tie : TieRule) (x : Binary64) (exponent : Int) : Option Decimal :=
  let below := floorOf x exponent
  match below.readsBackAs x, below.next.readsBackAs x with
  | true, true => some (nearer tie x below)
  | true, false => some below
  | false, true => some below.next
  | false, false => none

/-- The least `k` with `x < 10 ^ k`. The logarithm to base two gives it up to two steps, since
`1233 / 4096` is the logarithm of two to base ten to five digits. -/
def magnitudeOf (x : Binary64) : Int :=
  let start := ((x.significand.log2 : Int) + x.scale) * 1233 / 4096
  let above (k : Int) : Bool := (⟨1, k⟩ : Decimal).compareBinary x.significand x.scale == .gt
  if above start then start else if above (start + 1) then start + 1 else start + 2

/-- Trailing zeros of the digits move into the exponent. -/
def strip : Nat → Decimal → Decimal
  | 0, d => d
  | fuel + 1, d =>
    if d.digits % 10 = 0 then strip fuel ⟨d.digits / 10, d.exponent + 1⟩ else d

/-- The exact value, which reads back whatever its length. -/
def exact (x : Binary64) : Decimal :=
  if x.scale < 0 then ⟨x.significand * Nat.pow 5 (-x.scale).toNat, x.scale⟩
  else ⟨x.significand * Nat.pow 2 x.scale.toNat, 0⟩

/-- The shortest decimal that reads back as the magnitude of a finite number other than zero.
Seventeen digits always suffice. -/
def shortest (tie : TieRule) (x : Binary64) : Decimal :=
  let k := magnitudeOf x
  match (List.range 17).findSome? fun (n : Nat) => onGrid? tie x (k - 1 - n) with
  | some d => strip 17 d
  | none => exact x

end Decimal

end CoinQuery
