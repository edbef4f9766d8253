import AirStation.Proofs.Htu21d.Steps
import AirStation.Simulated.Bus
import Mathlib.Algebra.CharP.Two
import Mathlib.Algebra.Field.ZMod
import Mathlib.Algebra.Polynomial.Div
import Mathlib.RingTheory.Coprime.Lemmas
import Mathlib.Tactic.ComputeDegree
import Mathlib.Tactic.LinearCombination

/-!
The checksum as polynomial division. A string of bits stands for a polynomial over the field of two
elements, and the checksum of a message is the remainder of the message, moved up by eight places,
after division by x⁸ + x⁵ + x⁴ + 1. Which corruptions of a frame go unnoticed is therefore a
question of divisibility (`crc8_is_remainder_and_detects`).

The driver computes with bytes, one shift after another. Each shift multiplies the register by x and
leaves the remainder as it is (`generator_dvd_crcShift`), and the rest follows from that. An answer
of the device is two bytes and their checksum; what is proved here is about messages of any length.
-/

namespace AirStation.Htu21d

open Polynomial

/-- The bits of a byte as they are sent, the highest one first. -/
def bitsOf (byte : UInt8) : List Bool :=
  [7, 6, 5, 4, 3, 2, 1, 0].map byte.toBitVec.getLsbD

/-- The bits of a message as they are sent, byte after byte. -/
def bits (bytes : List UInt8) : List Bool :=
  bytes.flatMap bitsOf

/-- Bytes of which the bits that are set in the pattern have been flipped. Every corruption that
keeps the length has such a pattern. -/
def flipped (bytes pattern : List UInt8) : List UInt8 :=
  List.zipWith (· ^^^ ·) bytes pattern

/-- There are set bits, and all of them lie within eight neighbouring places, wherever the bytes
begin and end. -/
def Burst (pattern : List Bool) : Prop :=
  true ∈ pattern ∧ ∃ first, ∀ i, pattern[i]? = some true → first ≤ i ∧ i < first + 8

/-- An odd number of bits is set, in any places of the message or the checksum. -/
def OddlyMany (pattern : List Bool) : Prop :=
  pattern.count true % 2 = 1

@[simp] theorem length_bitsOf (byte : UInt8) : (bitsOf byte).length = 8 := rfl

theorem bitsOf_xor (a b : UInt8) :
    bitsOf (a ^^^ b) = List.zipWith Bool.xor (bitsOf a) (bitsOf b) := by
  simp [bitsOf]

theorem bits_flipped {bytes pattern : List UInt8} (h : pattern.length = bytes.length) :
    bits (flipped bytes pattern) = List.zipWith Bool.xor (bits bytes) (bits pattern) := by
  induction bytes generalizing pattern with
  | nil => rfl
  | cons byte rest ih =>
    cases pattern with
    | nil => nomatch h
    | cons mask masks =>
      have hrest := ih (Nat.succ.inj h)
      simp only [bits, flipped, List.zipWith_cons_cons, List.flatMap_cons] at hrest ⊢
      rw [bitsOf_xor, hrest, List.zipWith_append (by simp)]

/-- The polynomial of a string of bits. The last bit is the constant term, so the bits that are sent
first have the highest powers. -/
noncomputable def polynomial : List Bool → (ZMod 2)[X]
  | [] => 0
  | bit :: rest => (if bit then X ^ rest.length else 0) + polynomial rest

/-- Joining two strings moves the first one up by the length of the second. -/
theorem polynomial_append (first second : List Bool) :
    polynomial (first ++ second) = polynomial first * X ^ second.length + polynomial second := by
  induction first with
  | nil => simp [polynomial]
  | cons bit rest ih =>
    simp only [List.cons_append, polynomial, ih, List.length_append]
    split <;> ring

/-- Strings of the same length are added bit by bit, since there are no carries over two
elements. -/
theorem polynomial_xor {first second : List Bool} (h : second.length = first.length) :
    polynomial (List.zipWith Bool.xor first second) = polynomial first + polynomial second := by
  induction first generalizing second with
  | nil =>
    obtain rfl := List.length_eq_zero_iff.mp h
    simp [polynomial]
  | cons bit rest ih =>
    cases second with
    | nil => nomatch h
    | cons other others =>
      have hlength : others.length = rest.length := Nat.succ.inj h
      have hzip : (List.zipWith Bool.xor rest others).length = rest.length := by
        simp [hlength]
      simp only [List.zipWith_cons_cons, polynomial, ih hlength, hzip, hlength]
      -- Two ones cancel.
      have htwo : (2 : (ZMod 2)[X]) = 0 := CharTwo.two_eq_zero
      cases bit <;> cases other <;> simp only [Bool.xor_false, Bool.xor_true, Bool.not_false,
        Bool.not_true, Bool.false_eq_true, if_true, if_false]
      · ring
      · ring
      · ring
      · linear_combination -X ^ rest.length * htwo

theorem polynomial_eq_zero {l : List Bool} (h : true ∉ l) : polynomial l = 0 := by
  induction l with
  | nil => rfl
  | cons bit rest ih =>
    obtain ⟨hbit, hrest⟩ := not_or.mp (List.mem_cons.not.mp h)
    obtain rfl : bit = false := Bool.eq_false_iff.mpr (Ne.symm hbit)
    simp [polynomial, ih hrest]

theorem degree_polynomial_lt (l : List Bool) : (polynomial l).degree < l.length := by
  induction l with
  | nil => simp [polynomial]
  | cons bit rest ih =>
    have hlength : (rest.length : WithBot ℕ) < (bit :: rest).length := by
      exact_mod_cast Nat.lt_succ_self rest.length
    refine (degree_add_le _ _).trans_lt (max_lt ?_ (ih.trans hlength))
    split
    · rwa [degree_X_pow]
    · simp

theorem polynomial_ne_zero {l : List Bool} (h : true ∈ l) : polynomial l ≠ 0 := by
  induction l with
  | nil => nomatch h
  | cons bit rest ih =>
    cases bit with
    | false => simpa [polynomial] using ih (by simpa using h)
    | true =>
      have hmonic : (polynomial (true :: rest)).Monic := by
        simpa [polynomial] using monic_X_pow_add (degree_polynomial_lt rest)
      exact hmonic.ne_zero

/-- At one a polynomial counts the bits that are set, up to an even number. -/
theorem eval_one_polynomial (l : List Bool) :
    (polynomial l).eval 1 = (l.count true : ZMod 2) := by
  induction l with
  | nil => simp [polynomial]
  | cons bit rest ih => cases bit <;> simp [polynomial, ih, add_comm]

/-- The polynomial that the checksum divides by, one degree above the register. -/
noncomputable def generator : (ZMod 2)[X] :=
  X ^ 8 + X ^ 5 + X ^ 4 + 1

theorem degree_generator_tail :
    (X ^ 5 + X ^ 4 + 1 : (ZMod 2)[X]).degree < ((8 : ℕ) : WithBot ℕ) := by
  have hdegree : (X ^ 5 + X ^ 4 + 1 : (ZMod 2)[X]).degree ≤ ((5 : ℕ) : WithBot ℕ) := by
    compute_degree!
  exact hdegree.trans_lt (by decide)

theorem generator_eq : generator = X ^ 8 + (X ^ 5 + X ^ 4 + 1) := by
  unfold generator
  ring

theorem monic_generator : generator.Monic := by
  rw [generator_eq]
  exact monic_X_pow_add degree_generator_tail

theorem degree_generator : generator.degree = 8 := by
  rw [generator_eq, degree_add_eq_left_of_degree_lt]
  · exact degree_X_pow 8
  · rw [degree_X_pow]
    exact degree_generator_tail

/-- Moving a string up by any number of places loses nothing modulo the generator, since its
constant term is one. -/
theorem coprime_generator (n : ℕ) : IsCoprime generator (X ^ n : (ZMod 2)[X]) := by
  apply IsCoprime.pow_right
  refine ⟨1, -(X ^ 7 + X ^ 4 + X ^ 3), ?_⟩
  unfold generator
  ring

theorem eval_one_generator : generator.eval 1 = 0 := by
  simp only [generator, eval_add, eval_pow, eval_X, eval_one, one_pow]
  decide

theorem crcShift_eq (crc : UInt8) :
    crcShift crc = if crc.toBitVec.getLsbD 7 then (crc <<< 1) ^^^ 0x31 else crc <<< 1 := by
  have hmask : crc &&& 0x80 = if crc.toBitVec.getLsbD 7 then 0x80 else 0 := by
    apply UInt8.toBitVec_inj.mp
    apply BitVec.eq_of_getLsbD_eq
    intro i hi
    have htop : ∀ i < 8, (UInt8.toBitVec 0x80).getLsbD i = decide (i = 7) := by decide
    rw [UInt8.toBitVec_and, BitVec.getLsbD_and, htop i hi]
    by_cases h : i = 7
    · subst h
      cases crc.toBitVec.getLsbD 7 <;> rfl
    · cases crc.toBitVec.getLsbD 7
      · simp [h]
      · simp only [h, decide_false, Bool.and_false, if_true]
        rw [htop i hi, decide_eq_false h]
  rw [crcShift, hmask]
  cases crc.toBitVec.getLsbD 7 <;> rfl

theorem bitsOf_shiftLeft (byte : UInt8) :
    bitsOf (byte <<< 1) = (bitsOf byte).tail ++ [false] := by
  simp [bitsOf]

/-- The highest bit leaves a byte that moves up by one place, and becomes the eighth power. -/
theorem polynomial_shiftLeft (byte : UInt8) :
    X * polynomial (bitsOf byte) =
      (if byte.toBitVec.getLsbD 7 then X ^ 8 else 0) + polynomial (bitsOf (byte <<< 1)) := by
  have hhead : bitsOf byte = byte.toBitVec.getLsbD 7 :: (bitsOf byte).tail := rfl
  have hlength : (bitsOf byte).tail.length = 7 := rfl
  rw [bitsOf_shiftLeft, polynomial_append, hhead, polynomial, hlength]
  simp only [List.tail_cons, polynomial, List.length_cons, List.length_nil, Bool.false_eq_true,
    if_false]
  split <;> ring

/-- A step replaces the polynomial of the register, moved up by one place, by one that leaves the
same remainder. -/
theorem generator_dvd_crcShift (crc : UInt8) :
    generator ∣ X * polynomial (bitsOf crc) - polynomial (bitsOf (crcShift crc)) := by
  have htail : polynomial (bitsOf 0x31) = X ^ 5 + X ^ 4 + 1 := by
    simp only [bitsOf, UInt8.toBitVec_ofNat, List.map_cons, Nat.lt_add_one,
      BitVec.getLsbD_eq_getElem, BitVec.reduceGetElem, Nat.reduceLT, Nat.one_lt_ofNat,
      Nat.ofNat_pos, List.map_nil, polynomial, Bool.false_eq_true, ↓reduceIte, List.length_cons,
      List.length_nil]
    ring
  rw [polynomial_shiftLeft, crcShift_eq]
  split
  · rw [bitsOf_xor, polynomial_xor (by simp), htail]
    refine ⟨1, ?_⟩
    have htwo : (2 : (ZMod 2)[X]) = 0 := CharTwo.two_eq_zero
    unfold generator
    linear_combination -(X ^ 5 + X ^ 4 + 1) * htwo
  · simp

theorem generator_dvd_repeat (count : ℕ) (crc : UInt8) :
    generator ∣ X ^ count * polynomial (bitsOf crc) -
      polynomial (bitsOf (Nat.repeat crcShift count crc)) := by
  induction count with
  | zero => simp [Nat.repeat]
  | succ count ih =>
    have hstep := generator_dvd_crcShift (Nat.repeat crcShift count crc)
    rw [Nat.repeat]
    convert dvd_add (ih.mul_left X) hstep using 1
    ring

theorem bits_append (first second : List UInt8) :
    bits (first ++ second) = bits first ++ bits second :=
  List.flatMap_append

/-- A checksum is what is left of the message after it has been moved up by eight places, by
induction on the bytes. -/
theorem generator_dvd_crc8 (bytes : List UInt8) :
    generator ∣ polynomial (bits bytes) * X ^ 8 - polynomial (bitsOf (crc8 bytes)) := by
  induction bytes using List.reverseRecOn with
  | nil => exact ⟨0, by simp [bits, crc8, bitsOf, polynomial]⟩
  | append_singleton rest byte ih =>
    have hcrc : crc8 (rest ++ [byte]) = Nat.repeat crcShift 8 (crc8 rest ^^^ byte) := by
      rw [crc8, List.foldl_append]
      rfl
    have hbyte : bits [byte] = bitsOf byte := List.append_nil _
    have hstep := generator_dvd_repeat 8 (crc8 rest ^^^ byte)
    rw [bitsOf_xor, polynomial_xor (by simp)] at hstep
    rw [hcrc, bits_append, hbyte, polynomial_append, length_bitsOf]
    convert dvd_add (ih.mul_left (X ^ 8)) hstep using 1
    ring

/-- The checksum is the remainder itself and not only congruent to it, since a byte has a degree
less than eight. -/
theorem polynomial_crc8 (bytes : List UInt8) :
    polynomial (bitsOf (crc8 bytes)) = polynomial (bits bytes) * X ^ 8 %ₘ generator := by
  have hsmall : (polynomial (bitsOf (crc8 bytes))).degree < generator.degree := by
    rw [degree_generator]
    exact degree_polynomial_lt _
  rw [modByMonic_eq_of_dvd_sub monic_generator (generator_dvd_crc8 bytes),
    (modByMonic_eq_self_iff monic_generator).mpr hsmall]

theorem bitsOf_eq_zero {byte : UInt8} (h : true ∉ bitsOf byte) : byte = 0 := by
  apply UInt8.toBitVec_inj.mp
  apply BitVec.eq_of_getLsbD_eq
  intro i hi
  have hbit : byte.toBitVec.getLsbD i ∈ bitsOf byte := by
    apply List.mem_map_of_mem
    simp only [List.mem_cons, List.not_mem_nil, or_false]
    omega
  have hzero : byte.toBitVec.getLsbD i = false := by
    cases hvalue : byte.toBitVec.getLsbD i with
    | false => rfl
    | true => exact absurd (hvalue ▸ hbit) h
  simpa using hzero

theorem polynomial_bitsOf_inj {a b : UInt8}
    (h : polynomial (bitsOf a) = polynomial (bitsOf b)) : a = b := by
  have htwo : (2 : (ZMod 2)[X]) = 0 := CharTwo.two_eq_zero
  have hzero : polynomial (bitsOf (a ^^^ b)) = 0 := by
    rw [bitsOf_xor, polynomial_xor (by simp), h]
    linear_combination polynomial (bitsOf b) * htwo
  refine UInt8.xor_eq_zero_iff.mp (bitsOf_eq_zero fun hset => ?_)
  exact polynomial_ne_zero hset hzero

/-- The checksum is linear, so the checksum of a corrupted message differs from that of the message
by the checksum of the pattern. -/
theorem crc8_flipped {bytes pattern : List UInt8} (h : pattern.length = bytes.length) :
    crc8 (flipped bytes pattern) = crc8 bytes ^^^ crc8 pattern := by
  have hlength : (bits pattern).length = (bits bytes).length := by
    simp [bits, h]
  apply polynomial_bitsOf_inj
  rw [bitsOf_xor, polynomial_xor (by simp), polynomial_crc8, polynomial_crc8, polynomial_crc8,
    bits_flipped h, polynomial_xor hlength, add_mul, add_modByMonic]

theorem crc8_frame (bytes : List UInt8) : crc8 (bytes ++ [crc8 bytes]) = 0 := by
  rw [crc8, List.foldl_append]
  show Nat.repeat crcShift 8 (crc8 bytes ^^^ crc8 bytes) = 0
  rw [UInt8.xor_self]
  rfl

/-- Only a multiple of the generator has a checksum of zero, so this is what an unnoticed pattern
has to be. -/
theorem generator_dvd_of_crc8_eq_zero {pattern : List UInt8} (h : crc8 pattern = 0) :
    generator ∣ polynomial (bits pattern) := by
  have hzero : polynomial (bitsOf (crc8 pattern)) = 0 := by
    rw [h]
    exact polynomial_eq_zero (by decide)
  have hdvd := generator_dvd_crc8 pattern
  rw [hzero, sub_zero] at hdvd
  exact (coprime_generator 8).dvd_of_dvd_mul_right hdvd

/-- Apart from zeros on either side a burst is a polynomial of degree less than eight, which the
generator does not divide. -/
theorem Burst.not_dvd {pattern : List Bool} (h : Burst pattern) :
    ¬ generator ∣ polynomial pattern := by
  obtain ⟨hset, first, hwithin⟩ := h
  let before := pattern.take first
  let core := (pattern.drop first).take 8
  let after := (pattern.drop first).drop 8
  have hsplit : pattern = before ++ (core ++ after) := by
    simp [before, core, after]
  have hbefore : true ∉ before := by
    intro hmem
    obtain ⟨i, hi, hbit⟩ := List.mem_take_iff_getElem.mp hmem
    have hplace := hwithin i (List.getElem?_eq_some_iff.mpr ⟨by omega, hbit⟩)
    omega
  have hafter : true ∉ after := by
    intro hmem
    obtain ⟨i, hbit⟩ := List.mem_iff_getElem?.mp hmem
    simp only [after, List.drop_drop, List.getElem?_drop] at hbit
    have hplace := hwithin _ hbit
    omega
  have hcore : true ∈ core := by
    rw [hsplit] at hset
    simpa [hbefore, hafter] using hset
  have hpolynomial : polynomial pattern = polynomial core * X ^ after.length := by
    rw [hsplit, polynomial_append, polynomial_append, polynomial_eq_zero hbefore,
      polynomial_eq_zero hafter]
    ring
  have hdegree : (polynomial core).degree < generator.degree := by
    refine (degree_polynomial_lt core).trans_le ?_
    rw [degree_generator]
    exact_mod_cast List.length_take_le 8 _
  rw [hpolynomial]
  intro hdvd
  exact monic_generator.not_dvd_of_degree_lt (polynomial_ne_zero hcore) hdegree
    ((coprime_generator _).dvd_of_dvd_mul_right hdvd)

/-- The generator has a zero at one, where a polynomial counts its bits, so its multiples have an
even number of them. -/
theorem OddlyMany.not_dvd {pattern : List Bool} (h : OddlyMany pattern) :
    ¬ generator ∣ polynomial pattern := by
  intro hdvd
  have heval : (polynomial pattern).eval 1 = 0 := by
    obtain ⟨quotient, hquotient⟩ := hdvd
    rw [hquotient, eval_mul, eval_one_generator, zero_mul]
  rw [eval_one_polynomial, ZMod.natCast_eq_zero_iff] at heval
  unfold OddlyMany at h
  omega

/-- A frame with such a corruption is not a frame: its last byte is not the checksum of the
others. -/
theorem crc8_ne_of_flipped {bytes pattern data : List UInt8} {last : UInt8}
    (hlength : pattern.length = bytes.length + 1)
    (hpattern : Burst (bits pattern) ∨ OddlyMany (bits pattern))
    (hreceived : flipped (bytes ++ [crc8 bytes]) pattern = data ++ [last]) :
    crc8 data ≠ last := by
  rintro rfl
  have hzero : crc8 pattern = 0 := by
    have hreceived := congrArg crc8 hreceived
    rwa [crc8_flipped (by simp [hlength]), crc8_frame, crc8_frame, UInt8.zero_xor] at hreceived
  have hdvd := generator_dvd_of_crc8_eq_zero hzero
  rcases hpattern with hburst | hodd
  · exact hburst.not_dvd hdvd
  · exact hodd.not_dvd hdvd

/-- A stage of a cycle takes no word from an answer that is not a frame, and says which of its reads
it was. -/
theorem readStage_corrupted {β : Type} [Bus β] {stage : Stage} {bus : β}
    {answer : Vector UInt8 3} (hanswer : (Bus.transact bus address (.read 3)).1 = .ok answer)
    (hcorrupted : ¬ Intact answer) :
    ((Driver.readStage stage).run bus).value =
      .error (.checksum Sensor.htu21d.name stage.readOperation) := by
  rw [Driver.readStage, BusM.run_bind]
  simp only [Device.read, BusM.run, hanswer]
  exact if_neg hcorrupted

/-- The checksum is the remainder of a polynomial division, and linear. A frame leaves no remainder,
and one whose bits have been flipped in a burst or in oddly many places is recognised, by the
checksum and by the driver that reads it. -/
theorem crc8_is_remainder_and_detects {β : Type} [Bus β] (xs : List UInt8) :
    polynomial (bitsOf (crc8 xs)) = polynomial (bits xs) * X ^ 8 %ₘ (X ^ 8 + X ^ 5 + X ^ 4 + 1) ∧
    (∀ ys, ys.length = xs.length → crc8 (flipped xs ys) = crc8 xs ^^^ crc8 ys) ∧
    crc8 (xs ++ [crc8 xs]) = 0 ∧
    ∀ pattern, pattern.length = xs.length + 1 →
      Burst (bits pattern) ∨ OddlyMany (bits pattern) →
      (∀ data last, flipped (xs ++ [crc8 xs]) pattern = data ++ [last] → crc8 data ≠ last) ∧
      ∀ (stage : Stage) (bus : β) (answer : Vector UInt8 3),
        answer.toList = flipped (xs ++ [crc8 xs]) pattern →
        (Bus.transact bus address (.read 3)).1 = .ok answer →
        ((Driver.readStage stage).run bus).value =
          .error (.checksum Sensor.htu21d.name stage.readOperation) := by
  refine ⟨polynomial_crc8 xs, fun ys hlength => crc8_flipped hlength, crc8_frame xs, ?_⟩
  intro pattern hlength hpattern
  refine ⟨fun data last => crc8_ne_of_flipped hlength hpattern, ?_⟩
  intro stage bus answer hcorrupted hanswer
  apply readStage_corrupted hanswer
  apply crc8_ne_of_flipped hlength hpattern
  rw [← hcorrupted]
  obtain ⟨⟨l⟩, hl⟩ := answer
  match l, hl with
  | [_, _, _], _ => rfl

/-- An inverted checksum is a burst of eight bits, so the driver takes no word from such an
answer. -/
theorem crc8_is_remainder_and_detects_inverted :
    let bus : SimulatedBus :=
      { SimulatedBus.empty with htu21d := some ⟨0x683C, 0x8002, some .temperature, true, 0⟩ }
    flipped ([0x68, 0x3C] ++ [crc8 [0x68, 0x3C]]) [0, 0, 0xFF] = [0x68, 0x3C] ++ [0x25] ∧
    crc8 [0x68, 0x3C] ≠ 0x25 ∧
    ((Driver.readStage .temperature).run bus).value =
      .error (.checksum "HTU21D" "read temperature") := by
  intro bus
  have hburst : Burst (bits [0, 0, 0xFF]) := by
    refine ⟨by decide, 16, fun i hbit => ?_⟩
    have hplaces : ∀ i < 24, (bits [0, 0, 0xFF])[i]? = some true → 16 ≤ i ∧ i < 16 + 8 := by
      decide +kernel
    obtain ⟨hi, -⟩ := List.getElem?_eq_some_iff.mp hbit
    exact hplaces i hi hbit
  have hflipped : flipped ([0x68, 0x3C] ++ [crc8 [0x68, 0x3C]]) [0, 0, 0xFF] =
      [0x68, 0x3C] ++ [0x25] := by
    decide +kernel
  obtain ⟨-, -, -, hdetects⟩ := crc8_is_remainder_and_detects (β := SimulatedBus) [0x68, 0x3C]
  obtain ⟨hne, hrejected⟩ := hdetects [0, 0, 0xFF] rfl (.inl hburst)
  refine ⟨hflipped, hne _ _ hflipped, hrejected .temperature bus #v[0x68, 0x3C, 0x25] ?_ ?_⟩
  · rw [hflipped]
    rfl
  · decide +kernel

end AirStation.Htu21d
