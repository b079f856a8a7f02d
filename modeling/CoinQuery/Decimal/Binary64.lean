/-!
# Binary64 numbers

A double-precision number as its 64 bits: one of sign, eleven of exponent, 52 of fraction. The bits
are kept rather than a floating-point value so that equality is equality of bits, zero keeps its
sign, and the order below is an order of integers.
-/

namespace CoinQuery

structure Binary64 where
  bits : UInt64
deriving DecidableEq, Inhabited

namespace Binary64

def ofFloat (x : Float) : Binary64 := ⟨x.toBits⟩

def isNegative (x : Binary64) : Bool := 0x8000000000000000 ≤ x.bits.toNat

/-- The bits without the sign. -/
def magnitude (x : Binary64) : Nat := x.bits.toNat % 0x8000000000000000

def exponentField (x : Binary64) : Nat := x.magnitude / 0x10000000000000

def fractionField (x : Binary64) : Nat := x.magnitude % 0x10000000000000

def isFinite (x : Binary64) : Bool := x.exponentField < 0x7FF

def isNaN (x : Binary64) : Bool := x.exponentField == 0x7FF && x.fractionField != 0

/-- The same number with its sign changed. -/
def negate (x : Binary64) : Binary64 := ⟨x.bits ^^^ 0x8000000000000000⟩

/-! ## The order of all bit patterns -/

/-- The place of a number among all bit patterns: magnitudes count up from zero, and below zero they
count down from minus one, so that negative zero comes right before zero. -/
def rank (x : Binary64) : Int :=
  if x.isNegative then -(x.magnitude : Int) - 1 else x.magnitude

def order (x y : Binary64) : Ordering := compare x.rank y.rank

/-! ## The exact value -/

/-- The magnitude of a finite number is `significand * 2 ^ scale`. -/
def significand (x : Binary64) : Nat :=
  if x.exponentField = 0 then x.fractionField else 0x10000000000000 + x.fractionField

def scale (x : Binary64) : Int :=
  if x.exponentField = 0 then -1074 else (x.exponentField : Int) - 1075

/-- Just above a power of two the gap to the next number below is half the gap above. -/
def isAboveNarrowGap (x : Binary64) : Bool :=
  x.fractionField == 0 && 1 < x.exponentField

/-! ## Reading -/

/-- The number nearest to `digits * 10 ^ exponent`, ties to even; infinity from halfway beyond the
greatest finite number on. Exponents so large or small that the digits cannot matter are settled
without computing the power. -/
def ofDecimal (digits : Nat) (exponent : Int) : Binary64 :=
  let leading := (Nat.toDigits 10 digits).length + exponent
  if digits = 0 then ⟨0⟩
  else if 400 < leading then ⟨0x7FF0000000000000⟩
  else if leading < -400 then ⟨0⟩
  else ofFloat (Float.ofScientific digits (exponent < 0) exponent.natAbs)

def ofInt (i : Int) : Binary64 :=
  let x := ofDecimal i.natAbs 0
  if i < 0 then x.negate else x

end Binary64

end CoinQuery
