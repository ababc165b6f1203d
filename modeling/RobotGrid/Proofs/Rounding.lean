import Mathlib.Data.Nat.GCD.Basic
import Mathlib.Data.Rat.Lemmas
import Mathlib.Tactic.FieldSimp
import Mathlib.Tactic.Linarith
import Mathlib.Tactic.Ring
import RobotGrid.Number.Nearest

set_option autoImplicit false

/-!
# Where rounding is exact

The last bit of a quotient by a power of two is told by the largest power of two in the numerator.
So an integer and a half is a number of the binary64 format up to the size where a significand has
no place for the half, and far beyond that an integer still has a number nearest to it.
-/
namespace RobotGrid

theorem roundQuotient_mul {d : Nat} (h : 0 < d) (k : Nat) : roundQuotient (k * d) d = k := by
  simp [roundQuotient, Nat.mul_div_cancel k h, h]

theorem roundQuotient_le (n d : Nat) : roundQuotient n d ≤ n / d + 1 := by
  simp only [roundQuotient]
  split
  · omega
  · split
    · omega
    · split <;> omega

namespace Binary64

theorem lastBit_pow {n : Nat} (pos : n ≠ 0) (e : Nat) :
    lastBit n (2 ^ e) = max leastPower ((Nat.log2 n : Int) - e - 52) := by
  have size : 2 ^ Nat.log2 n ≤ n := Nat.log2_self_le pos
  have whole : ¬n * Nat.pow 2 (-((Nat.log2 n : Int) - e - 52 + 52)).toNat <
      2 ^ e * Nat.pow 2 ((Nat.log2 n : Int) - e - 52 + 52).toNat := by
    change ¬n * 2 ^ _ < 2 ^ e * 2 ^ _
    rw [← Nat.pow_add, Nat.not_lt]
    calc
      _ = 2 ^ Nat.log2 n * 2 ^ (-((Nat.log2 n : Int) - e - 52 + 52)).toNat := by
        rw [← Nat.pow_add]
        congr 1
        omega
      _ ≤ _ := Nat.mul_le_mul_right _ size
  simp only [lastBit, Nat.log2_two_pow]
  rw [if_neg (by simpa using whole)]

theorem nearestWord_half {n : Nat} (pos : n ≠ 0) (small : n < 2 ^ 53) :
    nearestWord n 2 = (Nat.log2 n + 1021) * 2 ^ 52 + n * 2 ^ (52 - Nat.log2 n) := by
  have size : Nat.log2 n < 53 := (Nat.log2_lt pos).2 small
  have bit : lastBit n 2 = (Nat.log2 n : Int) - 53 := by
    rw [show lastBit n 2 = _ from lastBit_pow pos 1, leastPower]
    omega
  have up : (-((Nat.log2 n : Int) - 53)).toNat = 52 - Nat.log2 n + 1 := by omega
  have down : ((Nat.log2 n : Int) - 53).toNat = 0 := by omega
  have exponent : ((Nat.log2 n : Int) - 53 - leastPower).toNat = Nat.log2 n + 1021 := by
    rw [leastPower]
    omega
  have count : n * Nat.pow 2 (52 - Nat.log2 n + 1) = n * 2 ^ (52 - Nat.log2 n) * 2 :=
    (Nat.mul_assoc _ _ _).symm
  simp only [nearestWord, bit, up, down, exponent, count]
  rw [show 2 * Nat.pow 2 0 = 2 from rfl, roundQuotient_mul Nat.two_pos]
  rfl

theorem value_word {k s : Nat} (few : k ≤ 52) (low : 2 ^ 52 ≤ s) (high : s < 2 ^ 53) :
    (Binary64.mk (UInt64.ofNat ((k + 1021) * 2 ^ 52 + s))).value = mkRat s (2 ^ (53 - k)) := by
  let x : Binary64 := ⟨UInt64.ofNat ((k + 1021) * 2 ^ 52 + s)⟩
  have word : x.bits.toNat = (k + 1021) * 2 ^ 52 + s := by
    rw [UInt64.toNat_ofNat']
    omega
  have bit : Nat.pow 2 52 = 2 ^ 52 := rfl
  have sign : x.negative = false := by
    rw [negative, word, decide_eq_false_iff_not, show Nat.pow 2 63 = 2 ^ 63 from rfl]
    omega
  have exponent : x.exponentField = k + 1022 := by
    rw [exponentField, word, bit, show Nat.pow 2 11 = 2 ^ 11 from rfl]
    omega
  have fraction : x.fraction = s - 2 ^ 52 := by
    rw [Binary64.fraction, word, bit]
    omega
  have significand : x.significand = s := by
    rw [Binary64.significand, exponent, fraction, if_neg (by omega), bit]
    omega
  have power : x.power = -((53 - k : Nat) : Int) := by
    rw [Binary64.power, exponent]
    omega
  change x.value = _
  rw [value, sign, if_neg Bool.false_ne_true, magnitude, power, significand, if_neg (by omega)]
  simp

/-- Below this size an integer and a half is a number of the binary64 format. -/
theorem nearest_half {c : Int} (low : 0 ≤ c) (high : c < 0x10000000000000) :
    ∃ x, nearest (c + 1 / 2) = some x ∧ x.value = c + 1 / 2 := by
  obtain ⟨m, rfl⟩ := Int.eq_ofNat_of_zero_le low
  obtain ⟨n, doubled⟩ : ∃ n, n = 2 * m + 1 := ⟨_, rfl⟩
  have coprime : Nat.Coprime (n : Int).natAbs 2 := by
    rw [doubled, Int.natAbs_natCast, Nat.coprime_mul_left_add_left]
    exact Nat.coprime_one_left 2
  have lowest : (((m : Int) : Rat) + 1 / 2) = ⟨n, 2, by decide, coprime⟩ := by
    rw [Rat.mk_eq_mkRat, Rat.mkRat_eq_div, doubled]
    push_cast
    ring
  have pos : n ≠ 0 := by omega
  have small : n < 2 ^ 53 := by omega
  have few : Nat.log2 n ≤ 52 := Nat.le_of_lt_succ ((Nat.log2_lt pos).2 small)
  -- A significand of 53 bits, from which the numerator lacks this power of two.
  let unit := 2 ^ (52 - Nat.log2 n)
  have above : 2 ^ 52 ≤ n * unit := by
    calc
      2 ^ 52 = 2 ^ Nat.log2 n * unit := by rw [← Nat.pow_add, Nat.add_sub_cancel' few]
      _ ≤ n * unit := Nat.mul_le_mul_right _ (Nat.log2_self_le pos)
  have below : n * unit < 2 ^ 53 := by
    calc
      n * unit < 2 ^ (Nat.log2 n + 1) * unit :=
        Nat.mul_lt_mul_of_pos_right Nat.lt_log2_self (Nat.two_pow_pos _)
      _ = 2 ^ 53 := by rw [← Nat.pow_add]; congr 1; omega
  have word : nearestWord n 2 = (Nat.log2 n + 1021) * 2 ^ 52 + n * unit :=
    nearestWord_half pos small
  have finite : ¬infinityWord ≤ nearestWord n 2 := by
    rw [word, infinityWord, show Nat.pow 2 52 = 2 ^ 52 from rfl]
    omega
  have nonzero : ¬(n : Int) = 0 := by omega
  have sign : ¬(n : Int) < 0 := by omega
  have denominator : 2 ^ (53 - Nat.log2 n) = 2 * unit := by
    rw [Nat.mul_comm, ← Nat.pow_succ]
    congr 1
    omega
  refine ⟨⟨UInt64.ofNat (nearestWord n 2)⟩, ?_, ?_⟩
  · rw [lowest, nearest]
    simp only [nonzero, sign, if_false, Int.natAbs_natCast, finite]
  · rw [word, value_word few above below, denominator, lowest, Rat.mk_eq_mkRat]
    push_cast
    exact Rat.mkRat_mul_right (Nat.two_pow_pos _).ne'

/-- The largest power of two that is a number of the binary64 format, as its exponent. -/
@[irreducible] def largestPower : Nat := 1023

theorem nearestWord_lt {n : Nat} (pos : n ≠ 0) (small : Nat.log2 n < largestPower) :
    nearestWord n 1 < infinityWord := by
  rw [largestPower] at small
  have bit : lastBit n 1 = (Nat.log2 n : Int) - 52 := by
    rw [show lastBit n 1 = _ from lastBit_pow pos 0, leastPower]
    omega
  have exponent : ((Nat.log2 n : Int) - 52 - leastPower).toNat = Nat.log2 n + 1022 := by
    rw [leastPower]
    omega
  obtain ⟨up, hu⟩ : ∃ up, (-((Nat.log2 n : Int) - 52)).toNat = up := ⟨_, rfl⟩
  obtain ⟨down, hd⟩ : ∃ down, ((Nat.log2 n : Int) - 52).toNat = down := ⟨_, rfl⟩
  have count : n * 2 ^ up / (1 * 2 ^ down) < 2 ^ 53 := by
    rw [Nat.one_mul, Nat.div_lt_iff_lt_mul (Nat.two_pow_pos _)]
    calc
      n * 2 ^ up < 2 ^ (Nat.log2 n + 1) * 2 ^ up :=
        Nat.mul_lt_mul_of_pos_right Nat.lt_log2_self (Nat.two_pow_pos _)
      _ = 2 ^ 53 * 2 ^ down := by
        rw [← Nat.pow_add, ← Nat.pow_add]
        congr 1
        omega
  have rounded := roundQuotient_le (n * 2 ^ up) (1 * 2 ^ down)
  have word : nearestWord n 1 =
      (Nat.log2 n + 1022) * 2 ^ 52 + roundQuotient (n * 2 ^ up) (1 * 2 ^ down) := by
    simp only [nearestWord, bit, exponent, hu, hd]
    rfl
  rw [word, infinityWord, show Nat.pow 2 52 = 2 ^ 52 from rfl]
  omega

theorem nearest_isSome {n : Int} (small : n.natAbs < 2 ^ largestPower) :
    (nearest n).isSome = true := by
  rw [nearest, Rat.num_intCast, Rat.den_intCast]
  by_cases zero : n = 0
  · subst zero
    rfl
  · have pos : n.natAbs ≠ 0 := Int.natAbs_ne_zero.2 zero
    have finite := nearestWord_lt pos ((Nat.log2_lt pos).2 small)
    simp only [zero, if_false, Nat.not_le.2 finite, Option.isSome_some]

end Binary64
end RobotGrid
