import FeltLowering.Felt
import FeltLowering.Ir.Eval
import Mathlib.Algebra.Ring.Int.Defs

/-
Two's complement.

The evaluator keeps every value unsigned and reads it as signed where an instruction
asks for that.  `wrap` is the remainder by a power of two, and `toSigned_wrap` says that
the signed reading of a wrapped value is the balanced remainder `Int.bmod`.  The rest of
the file is the arithmetic of the reduction helper at any width whose signed range holds
twice the modulus.
-/
namespace FeltLowering

theorem twoPow_pos (n : Nat) : 0 < twoPow n := Nat.two_pow_pos n

theorem twoPow_succ (n : Nat) : twoPow (n + 1) = 2 * twoPow n := by
  show 2 ^ (n + 1) = 2 * 2 ^ n
  rw [Nat.pow_succ]
  omega

theorem twoPow_add (m n : Nat) : twoPow (m + n) = twoPow m * twoPow n := Nat.pow_add 2 m n

theorem twoPow_le {m n : Nat} (h : m ≤ n) : twoPow m ≤ twoPow n :=
  Nat.pow_le_pow_right (by omega) h

theorem twoPow_cast (n : Nat) : (twoPow n : Int) = (2 : Int) ^ n := by
  show ((2 ^ n : Nat) : Int) = 2 ^ n
  norm_cast

namespace Ir

theorem wrap_nonneg (w : Nat) (v : Int) : 0 ≤ wrap w v := by
  have h : (twoPow w : Int) ≠ 0 := by have := twoPow_pos w; omega
  exact Int.emod_nonneg v h

theorem wrap_lt (w : Nat) (v : Int) : wrap w v < twoPow w := by
  have h : (0 : Int) < twoPow w := by have := twoPow_pos w; omega
  exact Int.emod_lt_of_pos v h

theorem wrap_of_range {w : Nat} {v : Int} (h0 : 0 ≤ v) (h1 : v < twoPow w) : wrap w v = v :=
  Int.emod_eq_of_lt h0 h1

theorem wrap_add_wrap (w : Nat) (a b : Int) : wrap w (wrap w a + wrap w b) = wrap w (a + b) :=
  (Int.add_emod a b (twoPow w)).symm

theorem wrap_sub_wrap (w : Nat) (a b : Int) : wrap w (wrap w a - wrap w b) = wrap w (a - b) :=
  (Int.sub_emod a b (twoPow w)).symm

theorem wrap_mul_wrap (w : Nat) (a b : Int) : wrap w (wrap w a * wrap w b) = wrap w (a * b) :=
  (Int.mul_emod a b (twoPow w)).symm

/-- The bit that `toSigned` looks at says in which half of the range a value lies. -/
theorem signBit_eq_zero_iff {k : Nat} {v : Int} (h0 : 0 ≤ v) (h1 : v < twoPow (k + 1)) :
    (v >>> k) % 2 = 0 ↔ v < twoPow k := by
  have hs := twoPow_succ k
  have hpos := twoPow_pos k
  have hk : ((2 ^ k : Nat) : Int) = twoPow k := rfl
  rw [Int.shiftRight_eq_div_pow, hk]
  rcases Int.lt_or_le v (twoPow k) with hlt | hge
  · rw [Int.ediv_eq_zero_of_lt h0 hlt]
    simp [hlt]
  · have hq : v / (twoPow k : Int) = 1 := by
      have hp : (0 : Int) < twoPow k := by omega
      have hlo : 1 ≤ v / (twoPow k : Int) := (Int.le_ediv_iff_mul_le hp).mpr (by omega)
      have hhi : v / (twoPow k : Int) < 2 := Int.ediv_lt_of_lt_mul hp (by omega)
      omega
    rw [hq]
    constructor
    · intro h
      simp at h
    · omega

/-- Reading a wrapped value as signed gives the balanced remainder. -/
theorem toSigned_wrap {w : Nat} (hw : 0 < w) (v : Int) :
    toSigned w (wrap w v) = v.bmod (twoPow w) := by
  obtain ⟨k, rfl⟩ : ∃ k, w = k + 1 := ⟨w - 1, by omega⟩
  have h0 := wrap_nonneg (k + 1) v
  have h1 := wrap_lt (k + 1) v
  have hbit := signBit_eq_zero_iff h0 h1
  have hs := twoPow_succ k
  have hhalf : ((twoPow (k + 1) : Int) + 1) / 2 = twoPow k := by omega
  simp only [toSigned, Nat.add_sub_cancel]
  rcases Int.lt_or_le (wrap (k + 1) v) (twoPow k) with hlt | hge
  · have hz : (wrap (k + 1) v >>> k) % 2 = 0 := hbit.mpr hlt
    rw [Int.bmod_eq_emod_of_lt (by rw [hhalf]; exact hlt)]
    simp only [hz, decide_true, Bool.or_true, if_true]
    rfl
  · have hz : ¬ (wrap (k + 1) v >>> k) % 2 = 0 := fun h => by have := hbit.mp h; omega
    rw [Int.bmod_neg v _ (by rw [hhalf]; exact hge)]
    simp only [hz, Nat.succ_ne_zero, decide_false, Bool.or_self, Bool.false_eq_true, if_false]
    rfl

/-- A value in the signed range is its own balanced remainder. -/
theorem bmod_twoPow_of_range {w : Nat} {v : Int} (h0 : -(twoPow w : Int) ≤ v) (h1 : v < twoPow w) :
    v.bmod (twoPow (w + 1)) = v := by
  have hs := twoPow_succ w
  exact Int.bmod_eq_of_le_mul_two (by omega) (by omega)

/-! ## Reduction by a truncated remainder -/

/-- A truncated remainder, moved up by the modulus and reduced once more, is the Euclidean
remainder. -/
theorem tmod_add_tmod {p : Int} (hp : 0 < p) (s : Int) : (s.tmod p + p).tmod p = s % p := by
  have hlo : -p < s.tmod p := Int.lt_tmod_of_pos s hp
  have hshift : s.tmod p + p = s + p * (1 - s.tdiv p) := by
    rw [Int.tmod_def, Int.mul_sub]
    omega
  rw [Int.tmod_eq_emod_of_nonneg (by omega), hshift, Int.add_mul_emod_self_left]

end Ir
end FeltLowering
