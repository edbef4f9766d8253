import AirStation.Bme68x.Heater
import Mathlib.Algebra.Order.Group.Nat

/-!
What the register codes of heater durations stand for. A code has a mantissa in its lower six bits
and says in its upper two how often that is to be multiplied by four. Encoding divides by four until
the mantissa fits, and drops the remainders.

A code is therefore never longer than the duration it was made from, with one exception: the longest
code stands for 4032 steps of 0.477 ms, a quarter of a millisecond more than the 1923 ms that it is
first used for (`decodedWait_sharedWaitCode_le_iff`).
-/

namespace AirStation.Bme68x

/-- The count a code stands for: its lower six bits, multiplied by four as often as its upper two
say. -/
def decodedWait (code : UInt8) : Nat :=
  code.toNat % 64 * Nat.pow 4 (code.toNat / 64)

theorem decodedWait_of_toNat {code : UInt8} {mantissa exponent : Nat} (hmantissa : mantissa ≤ 0x3F)
    (hcode : code.toNat = mantissa + 64 * exponent) :
    decodedWait code = mantissa * 4 ^ exponent := by
  have hlow : code.toNat % 64 = mantissa := by omega
  have hhigh : code.toNat / 64 = exponent := by omega
  rw [decodedWait, hlow, hhigh, Nat.pow_eq]

theorem toNat_waitCode_of_le {duration : Nat} (h : duration ≤ 0x3F) :
    (waitCode duration).toNat = duration := by
  rw [waitCode, if_pos h, UInt8.toNat_ofNat']
  omega

/-- A duration that fits six bits after `k` divisions is divided as seldom as possible. The mantissa
and the number of divisions stand side by side in the code. -/
theorem toNat_waitCode {k : Nat} (hk : k ≤ 3) {duration : Nat} (h : duration < 64 * 4 ^ k) :
    ∃ exponent ≤ k, duration / 4 ^ exponent ≤ 0x3F ∧
      (∀ fewer < exponent, 0x3F < duration / 4 ^ fewer) ∧
      (waitCode duration).toNat = duration / 4 ^ exponent + 64 * exponent := by
  -- Each division uses up one of the `k`.
  induction k generalizing duration with
  | zero =>
    have hfits : duration ≤ 0x3F := by omega
    refine ⟨0, le_rfl, by simpa using hfits, by simp, ?_⟩
    rw [toNat_waitCode_of_le hfits, Nat.pow_zero, Nat.div_one, Nat.mul_zero, Nat.add_zero]
  | succ k ih =>
    by_cases hfits : duration ≤ 0x3F
    · refine ⟨0, Nat.zero_le _, by simpa using hfits, by simp, ?_⟩
      rw [toNat_waitCode_of_le hfits, Nat.pow_zero, Nat.div_one, Nat.mul_zero, Nat.add_zero]
    · have hdivided : duration / 4 < 64 * 4 ^ k := by
        rw [Nat.pow_succ] at h
        omega
      obtain ⟨exponent, hexponent, hmantissa, hleast, hcode⟩ := ih (by omega) hdivided
      have hstep (e : Nat) : duration / 4 / 4 ^ e = duration / 4 ^ (e + 1) := by
        rw [Nat.div_div_eq_div_mul, Nat.pow_succ']
      refine ⟨exponent + 1, by omega, hstep exponent ▸ hmantissa, ?_, ?_⟩
      · intro fewer hfewer
        cases fewer with
        | zero => simpa using hfits
        | succ fewer => exact hstep fewer ▸ hleast fewer (by omega)
      · rw [waitCode, if_neg hfits, UInt8.toNat_add, hcode, hstep]
        rw [hstep] at hmantissa
        generalize duration / 4 ^ (exponent + 1) = mantissa at hmantissa ⊢
        show (_ + 64) % 256 = _
        omega

/-- Digits that a division drops make the code shorter, never longer. -/
theorem decodedWait_waitCode_le {duration : Nat} (h : duration < 4096) :
    decodedWait (waitCode duration) ≤ duration := by
  obtain ⟨exponent, -, hmantissa, -, hcode⟩ := toNat_waitCode (k := 3) le_rfl h
  rw [decodedWait_of_toNat hmantissa hcode]
  exact Nat.div_mul_le_self duration (4 ^ exponent)

theorem toNat_lt_of_short {milliseconds : UInt16} (h : ¬ 0x0FC0 ≤ milliseconds) :
    milliseconds.toNat < 4096 := by
  have hlimit : (0x0FC0 : UInt16).toNat = 4032 := rfl
  have hlt := UInt16.lt_iff_toNat_lt.mp (UInt16.not_le.mp h)
  omega

theorem toNat_lt_of_sharedShort {milliseconds : UInt16} (h : ¬ 0x0783 ≤ milliseconds) :
    milliseconds.toNat < 1923 :=
  UInt16.lt_iff_toNat_lt.mp (UInt16.not_le.mp h)

theorem decodedWait_longest : decodedWait 0xFF = 4032 := rfl

theorem decodedWait_gasWaitCode_le (milliseconds : UInt16) :
    decodedWait (gasWaitCode milliseconds) ≤ milliseconds.toNat := by
  unfold gasWaitCode
  split
  · next hlong =>
    rw [decodedWait_longest]
    exact UInt16.le_iff_toNat_le.mp hlong
  · next hshort => exact decodedWait_waitCode_le (toNat_lt_of_short hshort)

/-- The cut-off of the shared duration comes one millisecond too early, and this is the only
duration for which the code says more than it should. -/
theorem decodedWait_sharedWaitCode_le_iff (milliseconds : UInt16) :
    decodedWait (sharedWaitCode milliseconds) * 477 ≤ milliseconds.toNat * 1000 ↔
      milliseconds ≠ 1923 := by
  have hlimit : (0x0783 : UInt16).toNat = 1923 := rfl
  have hne : milliseconds ≠ 1923 ↔ milliseconds.toNat ≠ 1923 :=
    not_congr UInt16.toNat_inj.symm
  rw [hne]
  unfold sharedWaitCode
  split
  · next hlong =>
    have hle := UInt16.le_iff_toNat_le.mp hlong
    rw [decodedWait_longest]
    omega
  · next hshort =>
    have hlt := toNat_lt_of_sharedShort hshort
    have hcode := decodedWait_waitCode_le
      (show milliseconds.toNat * 1000 / 477 < 4096 by omega)
    omega

/-- In no case does the register say more than 264 µs too much. -/
theorem decodedWait_sharedWaitCode_le (milliseconds : UInt16) :
    decodedWait (sharedWaitCode milliseconds) * 477 ≤ milliseconds.toNat * 1000 + 264 := by
  by_cases h : milliseconds = 1923
  · subst h
    decide +kernel
  · have hle := (decodedWait_sharedWaitCode_le_iff milliseconds).mpr h
    exact Nat.le_trans hle (Nat.le_add_right _ _)

end AirStation.Bme68x
