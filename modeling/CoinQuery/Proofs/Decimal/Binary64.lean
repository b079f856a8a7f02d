import CoinQuery.Decimal.Binary64
import Mathlib.Data.Nat.Bitwise
import Mathlib.Tactic.Lemma

/-!
# The order of bit patterns

`Binary64.rank` puts all bit patterns on a line: magnitudes count up from zero, and those with a
sign count down from minus one.  There is a way to say this with operations on bits alone.  A
pattern with a sign gets all its other bits flipped, one without is left as it is, and the result is
read as a signed word (`Binary64.signAdjusted`).  Both are the same number
(`Binary64.rank_eq_toInt`), and no two patterns share one (`Binary64.rank_injective`): negative zero
differs from zero, and not-a-numbers from each other.
-/

namespace CoinQuery.Binary64

/-- The bits of a number, all but the sign flipped if there is a sign: shifting the sign through the
whole word and one place back gives the mask for that. -/
def signAdjusted (x : Binary64) : BitVec 64 :=
  x.bits.toBitVec ^^^ (x.bits.toBitVec.sshiftRight 63 >>> 1)

/-- Flipping the bits below a leading one counts them down. -/
lemma two_pow_add_xor {n m : Nat} (h : m < 2 ^ n) :
    (2 ^ n + m) ^^^ (2 ^ n - 1) = 2 ^ n + (2 ^ n - (m + 1)) := by
  apply Nat.eq_of_testBit_eq
  intro i
  rw [Nat.testBit_xor, Nat.testBit_two_pow_sub_one]
  rcases Nat.lt_trichotomy i n with hi | rfl | hi
  · rw [Nat.testBit_two_pow_add_gt hi, Nat.testBit_two_pow_add_gt hi,
      Nat.testBit_two_pow_sub_succ h]
    simp [hi]
  · have hlow : (2 ^ i - (m + 1)).testBit i = false := by
      simp [Nat.testBit_two_pow_sub_succ h]
    rw [Nat.testBit_two_pow_add_eq, Nat.testBit_two_pow_add_eq, hlow, Nat.testBit_lt_two_pow h]
    simp
  · have hsize : 2 ^ n + 2 ^ n ≤ 2 ^ i := by
      rw [← Nat.two_mul, ← Nat.pow_succ']
      exact Nat.pow_le_pow_right (by omega) hi
    have hleft : (2 ^ n + m).testBit i = false := Nat.testBit_lt_two_pow (by omega)
    have hright : (2 ^ n + (2 ^ n - (m + 1))).testBit i = false :=
      Nat.testBit_lt_two_pow (by omega)
    rw [hleft, hright]
    simp [Nat.not_lt_of_lt hi]

lemma signAdjusted_of_not_isNegative {x : Binary64} (h : x.isNegative = false) :
    x.signAdjusted.toInt = x.magnitude := by
  have hlt : x.bits.toBitVec.toNat < 2 ^ 63 := Nat.lt_of_not_le (of_decide_eq_false h)
  have hmsb : x.bits.toBitVec.msb = false := by
    rw [BitVec.msb_eq_decide]
    exact decide_eq_false (Nat.not_le_of_lt hlt)
  have hshift : x.bits.toBitVec.sshiftRight 63 = 0#64 := by
    apply BitVec.eq_of_toNat_eq
    rw [BitVec.sshiftRight_eq_of_msb_false hmsb, BitVec.toNat_ushiftRight,
      Nat.shiftRight_eq_div_pow]
    exact Nat.div_eq_of_lt hlt
  have hmagnitude : x.magnitude = x.bits.toBitVec.toNat := Nat.mod_eq_of_lt hlt
  rw [signAdjusted, hshift, BitVec.zero_ushiftRight, BitVec.xor_zero,
    BitVec.toInt_eq_toNat_of_msb hmsb, hmagnitude]

lemma signAdjusted_of_isNegative {x : Binary64} (h : x.isNegative = true) :
    x.signAdjusted.toInt = -(x.magnitude : Int) - 1 := by
  have hle : 2 ^ 63 ≤ x.bits.toBitVec.toNat := of_decide_eq_true h
  have hmsb : x.bits.toBitVec.msb = true := by
    rw [BitVec.msb_eq_decide]
    exact decide_eq_true hle
  have hbound : x.bits.toBitVec.toNat < 2 ^ 64 := x.bits.toBitVec.isLt
  have hflipped : ~~~x.bits.toBitVec >>> 63 = 0#64 := by
    apply BitVec.eq_of_toNat_eq
    rw [BitVec.toNat_ushiftRight, BitVec.toNat_not, Nat.shiftRight_eq_div_pow]
    exact Nat.div_eq_of_lt (by omega)
  have hmask : (x.bits.toBitVec.sshiftRight 63 >>> 1).toNat = 2 ^ 63 - 1 := by
    rw [BitVec.sshiftRight_eq_of_msb_true hmsb, hflipped]
    rfl
  have hmagnitude : x.bits.toBitVec.toNat = 2 ^ 63 + x.magnitude := by
    have hmod : x.magnitude = x.bits.toBitVec.toNat % 2 ^ 63 := rfl
    omega
  have hlt : x.magnitude < 2 ^ 63 := Nat.mod_lt _ (by decide)
  have hvalue : x.signAdjusted.toNat = 2 ^ 63 + (2 ^ 63 - (x.magnitude + 1)) := by
    rw [signAdjusted, BitVec.toNat_xor, hmask, hmagnitude, two_pow_add_xor hlt]
  rw [BitVec.toInt_eq_toNat_cond, if_neg (by omega), hvalue]
  omega

/-- The rank is the signed word of the adjusted bits. -/
lemma rank_eq_toInt (x : Binary64) : x.rank = x.signAdjusted.toInt := by
  rw [rank]
  split
  · rename_i h
    exact (signAdjusted_of_isNegative h).symm
  · rename_i h
    exact (signAdjusted_of_not_isNegative (Bool.eq_false_of_not_eq_true h)).symm

/-- No two bit patterns have the same place. -/
lemma rank_injective : Function.Injective rank := by
  intro x y h
  have hx : x.bits.toNat < 2 ^ 64 := x.bits.toNat_lt
  have hy : y.bits.toNat < 2 ^ 64 := y.bits.toNat_lt
  have hbits : x.bits.toNat = y.bits.toNat := by
    simp only [rank, isNegative, magnitude, decide_eq_true_eq] at h
    split at h <;> split at h <;> omega
  exact congrArg mk (UInt64.toNat_inj.mp hbits)

end CoinQuery.Binary64
