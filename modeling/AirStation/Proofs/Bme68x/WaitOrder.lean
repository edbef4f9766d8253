import AirStation.Proofs.Checked.Configuration

/-!
The order of the heater's wait codes. A code is the duration divided by four as seldom as leaves six
bits, with the number of divisions in its upper two bits. Divided at least once, what is left has
not dropped below sixteen, so a longer duration never gets a lower code, and a code never stands for
more than its duration nor for a sixteenth less. Both registers hold the code of a duration that is
cut off before the divisions could run out of bits (`wait_codes_keep_order`).
-/

namespace AirStation.Bme68x

/-- The exponent is the least number of divisions by four that leaves at most six bits. -/
structure LeastFit (duration exponent : Nat) : Prop where
  fits : duration / 4 ^ exponent ≤ 0x3F
  least : ∀ fewer < exponent, 0x3F < duration / 4 ^ fewer

namespace LeastFit

variable {duration exponent longer exponent' : Nat}

/-- The last division was needed, so it left a quarter of more than six bits, which is sixteen or
more. -/
theorem sixteen_le (h : LeastFit duration exponent) (hexponent : 0 < exponent) :
    16 ≤ duration / 4 ^ exponent := by
  obtain ⟨fewer, rfl⟩ := Nat.exists_eq_add_one_of_ne_zero (Nat.ne_of_gt hexponent)
  have hbefore := h.least fewer (Nat.lt_succ_self fewer)
  rw [Nat.pow_succ, ← Nat.div_div_eq_div_mul]
  omega

/-- A longer duration is divided at least as often. -/
theorem exponent_mono (h : LeastFit duration exponent) (h' : LeastFit longer exponent')
    (hle : duration ≤ longer) : exponent ≤ exponent' := by
  apply Nat.le_of_not_lt
  intro hlt
  have hneeded := h.least exponent' hlt
  have hquotients : duration / 4 ^ exponent' ≤ longer / 4 ^ exponent' := Nat.div_le_div_right hle
  have hfits := h'.fits
  omega

/-- With one more division the longer duration still has a mantissa of sixteen, which stands for as
much as the largest mantissa and one of the shorter. -/
theorem decoded_mono (h : LeastFit duration exponent) (h' : LeastFit longer exponent')
    (hle : duration ≤ longer) :
    duration / 4 ^ exponent * 4 ^ exponent ≤ longer / 4 ^ exponent' * 4 ^ exponent' := by
  rcases Nat.eq_or_lt_of_le (h.exponent_mono h' hle) with rfl | hlt
  · exact Nat.mul_le_mul_right _ (Nat.div_le_div_right hle)
  · have hsixteen := h'.sixteen_le (Nat.zero_lt_of_lt hlt)
    have hfits := h.fits
    calc
      duration / 4 ^ exponent * 4 ^ exponent ≤ 16 * 4 * 4 ^ exponent :=
        Nat.mul_le_mul_right _ (by omega)
      _ = 16 * 4 ^ (exponent + 1) := by rw [Nat.mul_assoc, Nat.pow_succ']
      _ ≤ 16 * 4 ^ exponent' := Nat.mul_le_mul_left _ (Nat.pow_le_pow_right (by decide) hlt)
      _ ≤ longer / 4 ^ exponent' * 4 ^ exponent' := Nat.mul_le_mul_right _ hsixteen

end LeastFit

/-- What a code says of the duration it was made from: its two parts, the wait it stands for, and
how far that wait is below the duration. -/
structure Encodes (code : UInt8) (duration exponent : Nat) : Prop where
  leastFit : LeastFit duration exponent
  toNat_eq : code.toNat = duration / 4 ^ exponent + 64 * exponent
  decoded_eq : decodedWait code = duration / 4 ^ exponent * 4 ^ exponent
  decoded_le : decodedWait code ≤ duration
  lt_next : duration < (duration / 4 ^ exponent + 1) * 4 ^ exponent
  sixteen_le : 0 < exponent → 16 ≤ duration / 4 ^ exponent
  error_lt : 0 < duration → 16 * (duration - decodedWait code) < duration

/-- Every duration that three divisions can encode is encoded in this way. -/
theorem waitCode_encodes {duration : Nat} (h : duration < 4096) :
    ∃ exponent, Encodes (waitCode duration) duration exponent := by
  obtain ⟨exponent, -, hfits, hleast, hcode⟩ := toNat_waitCode (k := 3) le_rfl h
  have hfit : LeastFit duration exponent := ⟨hfits, hleast⟩
  have hdecoded := decodedWait_of_toNat hfits hcode
  have hpositive : 0 < 4 ^ exponent := Nat.pow_pos (by decide)
  have hmod := Nat.mod_lt duration hpositive
  have hsplit := Nat.div_add_mod' duration (4 ^ exponent)
  refine ⟨exponent, hfit, hcode, hdecoded, decodedWait_waitCode_le h, ?_, hfit.sixteen_le, ?_⟩
  · rw [Nat.succ_mul]
    omega
  · -- What the divisions drop is less than one unit, and there are sixteen of them.
    intro hduration
    rw [hdecoded]
    rcases Nat.eq_zero_or_pos exponent with rfl | hexponent
    · simpa using hduration
    · have hsixteen := Nat.mul_le_mul_right (4 ^ exponent) (hfit.sixteen_le hexponent)
      omega

theorem waitCode_mono {duration longer : Nat} (hle : duration ≤ longer) (h : longer < 4096) :
    waitCode duration ≤ waitCode longer := by
  obtain ⟨exponent, hcode⟩ := waitCode_encodes (Nat.lt_of_le_of_lt hle h)
  obtain ⟨exponent', hcode'⟩ := waitCode_encodes h
  rw [UInt8.le_iff_toNat_le, hcode.toNat_eq, hcode'.toNat_eq]
  rcases Nat.eq_or_lt_of_le (hcode.leastFit.exponent_mono hcode'.leastFit hle) with rfl | hlt
  · exact Nat.add_le_add_right (Nat.div_le_div_right hle) _
  · have hfits := hcode.leastFit.fits
    generalize duration / 4 ^ exponent = mantissa at hfits ⊢
    exact Nat.le_add_left_of_le (by omega)

theorem decodedWait_waitCode_mono {duration longer : Nat} (hle : duration ≤ longer)
    (h : longer < 4096) : decodedWait (waitCode duration) ≤ decodedWait (waitCode longer) := by
  obtain ⟨exponent, hcode⟩ := waitCode_encodes (Nat.lt_of_le_of_lt hle h)
  obtain ⟨exponent', hcode'⟩ := waitCode_encodes h
  rw [hcode.decoded_eq, hcode'.decoded_eq]
  exact hcode.leastFit.decoded_mono hcode'.leastFit hle

/-- The count whose code stands for the longest wait, with all bits of mantissa and exponent set. -/
def longestCount : Nat := 4032

/-- The count that forced mode encodes, a millisecond each, cut off at the longest. -/
def gasCount (milliseconds : Nat) : Nat :=
  min milliseconds longestCount

/-- The count that parallel mode encodes, 0.477 ms each. Just below the cut-off there are 4029
steps, so the longest count is still above it. -/
def sharedCount (milliseconds : Nat) : Nat :=
  if milliseconds < 0x0783 then milliseconds * 1000 / 477 else longestCount

theorem waitCode_longestCount : waitCode longestCount = 0xFF := by
  rw [← UInt8.toNat_inj]
  obtain ⟨exponent, hexponent, hfits, hleast, hcode⟩ :=
    toNat_waitCode (k := 3) le_rfl (show longestCount < 4096 by decide)
  rw [hcode]
  unfold longestCount at hfits ⊢
  match exponent, hexponent with
  | 0, _ | 1, _ | 2, _ => simp at hfits
  | 3, _ => rfl

theorem gasWaitCode_eq_waitCode (milliseconds : UInt16) :
    gasWaitCode milliseconds = waitCode (gasCount milliseconds.toNat) := by
  unfold gasWaitCode gasCount
  split
  · next hlong =>
    have hle : longestCount ≤ milliseconds.toNat := UInt16.le_iff_toNat_le.mp hlong
    rw [Nat.min_eq_right hle, waitCode_longestCount]
  · next hshort =>
    have hlt : milliseconds.toNat < longestCount :=
      UInt16.lt_iff_toNat_lt.mp (UInt16.not_le.mp hshort)
    rw [Nat.min_eq_left (Nat.le_of_lt hlt)]

theorem sharedWaitCode_eq_waitCode (milliseconds : UInt16) :
    sharedWaitCode milliseconds = waitCode (sharedCount milliseconds.toNat) := by
  unfold sharedWaitCode sharedCount
  split
  · next hlong =>
    have hle : 0x0783 ≤ milliseconds.toNat := UInt16.le_iff_toNat_le.mp hlong
    rw [if_neg (Nat.not_lt.mpr hle), waitCode_longestCount]
  · next hshort => rw [if_pos (toNat_lt_of_sharedShort hshort)]

theorem gasCount_lt (milliseconds : Nat) : gasCount milliseconds < 4096 := by
  unfold gasCount longestCount
  omega

theorem sharedCount_lt (milliseconds : Nat) : sharedCount milliseconds < 4096 := by
  unfold sharedCount longestCount
  split <;> omega

theorem gasCount_mono {shorter longer : Nat} (h : shorter ≤ longer) :
    gasCount shorter ≤ gasCount longer := by
  unfold gasCount
  omega

theorem sharedCount_mono {shorter longer : Nat} (h : shorter ≤ longer) :
    sharedCount shorter ≤ sharedCount longer := by
  unfold sharedCount longestCount
  split <;> split <;> omega

namespace Checked

open AirStation.Checked

/-- A fourth division has used up the two bits for their number. -/
theorem encodeWait_overflow (duration factor : Nat) (hfactor : 4 ≤ factor) :
    encodeWait duration factor = .error .overflow := by
  induction duration, factor using encodeWait.induct with
  | case1 duration factor hfits =>
    have hshifted : within 0x100 (factor * 64) = .error .overflow := if_neg (by omega)
    rw [encodeWait, if_pos hfits, hshifted]
    rfl
  | case2 duration factor hlong ih =>
    rw [encodeWait, if_neg hlong]
    by_cases hroom : factor + 1 < 0x100
    · rw [within_of_lt hroom, ok_bind]
      exact ih (factor + 1) (by omega)
    · rw [within, if_neg hroom]
      rfl

theorem encodeWait_divides {duration factor : Nat} (hlong : 0x3F < duration)
    (hfactor : factor + 1 < 0x100) :
    encodeWait duration factor = encodeWait (duration / 4) (factor + 1) := by
  rw [encodeWait, if_neg (Nat.not_le.mpr hlong), within_of_lt hfactor, ok_bind]

/-- The code can be computed without overflow exactly for durations below 4096. -/
theorem encodeWait_ok_iff (duration : Nat) :
    (∃ code, encodeWait duration 0 = .ok code) ↔ duration < 4096 := by
  constructor
  · rintro ⟨code, hcode⟩
    apply Nat.lt_of_not_le
    intro hlong
    rw [encodeWait_divides (by omega) (by decide), encodeWait_divides (by omega) (by decide),
      encodeWait_divides (by omega) (by decide), encodeWait_divides (by omega) (by decide),
      encodeWait_overflow _ _ (by decide)] at hcode
    cases hcode
  · intro h
    exact ⟨waitCode duration, encodeWait_first h⟩

end Checked

/-- The code of a duration can be computed within a byte exactly below 4096. It is then the duration
divided by four as seldom as leaves six bits, with the number of divisions above them; it stands for
at most the duration and for less than a sixteenth less. Neither register ever asks for the code of
more, and a longer duration never gets a lower code in either, nor one that stands for a shorter
wait. -/
theorem wait_codes_keep_order :
    (∀ duration, (∃ code, Checked.encodeWait duration 0 = .ok code) ↔ duration < 4096) ∧
    (∀ duration < 4096, Checked.encodeWait duration 0 = .ok (waitCode duration) ∧
      ∃ exponent, Encodes (waitCode duration) duration exponent) ∧
    (∀ milliseconds, Checked.gasWaitCode milliseconds = .ok (gasWaitCode milliseconds) ∧
      Checked.sharedWaitCode milliseconds = .ok (sharedWaitCode milliseconds)) ∧
    ∀ shorter longer : UInt16, shorter ≤ longer →
      (gasWaitCode shorter ≤ gasWaitCode longer ∧
        sharedWaitCode shorter ≤ sharedWaitCode longer) ∧
      decodedWait (gasWaitCode shorter) ≤ decodedWait (gasWaitCode longer) ∧
      decodedWait (sharedWaitCode shorter) ≤ decodedWait (sharedWaitCode longer) := by
  refine ⟨Checked.encodeWait_ok_iff, ?_, ?_, ?_⟩
  · intro duration h
    exact ⟨Checked.encodeWait_first h, waitCode_encodes h⟩
  · intro milliseconds
    exact ⟨Checked.gasWaitCode_eq milliseconds, Checked.sharedWaitCode_eq milliseconds⟩
  · intro shorter longer hle
    have hgas := gasCount_mono (UInt16.le_iff_toNat_le.mp hle)
    have hshared := sharedCount_mono (UInt16.le_iff_toNat_le.mp hle)
    have hgasLt := gasCount_lt longer.toNat
    have hsharedLt := sharedCount_lt longer.toNat
    simp only [gasWaitCode_eq_waitCode, sharedWaitCode_eq_waitCode]
    exact ⟨⟨waitCode_mono hgas hgasLt, waitCode_mono hshared hsharedLt⟩,
      decodedWait_waitCode_mono hgas hgasLt, decodedWait_waitCode_mono hshared hsharedLt⟩

/-- Where the mantissa falls from 63 to 16, and at the cut-off of the shared duration. -/
theorem wait_codes_keep_order_at_changes :
    255 < 4096 ∧ waitCode 255 = 0x7F ∧ (∃ exponent, Encodes 0x7F 255 exponent) ∧
      (255 : UInt16) ≤ 256 ∧ gasWaitCode 255 = 0x7F ∧ gasWaitCode 256 = 0x90 ∧
      gasWaitCode 255 ≤ gasWaitCode 256 ∧ (1922 : UInt16) ≤ 1923 ∧ sharedWaitCode 1922 = 0xFE ∧
      sharedWaitCode 1923 = 0xFF ∧ sharedWaitCode 1922 ≤ sharedWaitCode 1923 := by
  have hcode : waitCode 255 = 0x7F := by cbv
  have hencodes := (wait_codes_keep_order.2.1 255 (by decide)).2
  rw [hcode] at hencodes
  have hgas := wait_codes_keep_order.2.2.2 255 256 (by decide)
  have hshared := wait_codes_keep_order.2.2.2 1922 1923 (by decide)
  exact ⟨by decide, hcode, hencodes, by decide, by cbv, by cbv, hgas.1.1, by decide, by cbv,
    by cbv, hshared.1.2⟩

end AirStation.Bme68x
