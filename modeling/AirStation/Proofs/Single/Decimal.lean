import AirStation.Single.Decimal
import Mathlib.Data.Nat.Digits.Defs

/-!
How long the decimal text of a number is. Every digit takes one byte, so the text is as long as its
integer digits, its places and at most a sign (`size_fixed_le`). Only three patterns of bits stand
for a number that is not finite, and scaling keeps it so (`NotFinite.hundredth`).

The digits in front of the point are counted in the text and not in the number. This is what a
reader of the display sees, and the rounding of the last place is in it already, so that a number
just below a power of ten has the digits it is shown with.
-/

namespace AirStation.Single

theorem size_of_digits {digits : List Char} (h : ∀ c ∈ digits, c.isDigit) :
    (String.ofList digits).utf8ByteSize = digits.length := by
  induction digits with
  | nil => rfl
  | cons c rest ih =>
    obtain ⟨hc, hrest⟩ := List.forall_mem_cons.mp h
    have hone : c.utf8Size = 1 :=
      Char.utf8Size_eq_one_iff.mpr (Nat.le_trans (Char.isDigit_iff_toNat.mp hc).2 (by decide))
    rw [String.ofList_cons, String.utf8ByteSize_append, String.utf8ByteSize_singleton, hone,
      ih hrest, List.length_cons, Nat.add_comm]

theorem isDigit_of_mem_repr {n : Nat} {c : Char} (h : c ∈ (Nat.repr n).toList) : c.isDigit := by
  rw [Nat.repr_eq_ofList_toDigits, String.toList_ofList] at h
  exact Nat.isDigit_of_mem_toDigits (by decide) (by decide) h

theorem size_repr (n : Nat) : (Nat.repr n).utf8ByteSize = (Nat.repr n).length := by
  have hsize := size_of_digits fun c (hc : c ∈ (Nat.repr n).toList) => isDigit_of_mem_repr hc
  rwa [String.ofList_toList, String.length_toList] at hsize

theorem size_repr_le_iff {n k : Nat} (hk : 0 < k) :
    (Nat.repr n).utf8ByteSize ≤ k ↔ n < 10 ^ k := by
  rw [size_repr, Nat.repr_eq_ofList_toDigits, String.length_ofList]
  exact Nat.length_toDigits_le_iff (by decide) hk

theorem size_padded {places value : Nat} (hplaces : 0 < places) (h : value < 10 ^ places) :
    (padded places value).utf8ByteSize = places := by
  have hzeros : ∀ c ∈ List.replicate (places - (Nat.repr value).length) '0', c.isDigit := by
    intro c hc
    rw [List.eq_of_mem_replicate hc]
    rfl
  have hdigits := Nat.repr_length value places hplaces h
  rw [padded, String.utf8ByteSize_append, size_of_digits hzeros, size_repr, List.length_replicate]
  omega

/-- The digits that are shown in front of the point, after the sign. -/
def integerDigits (places : Nat) (x : Float32) : List Char :=
  ((fixed places x).toList.dropWhile (· = '-')).takeWhile (·.isDigit)

/-- The pieces behind the integer digits, of which there are none if no places are shown. -/
def fractionPieces (places fraction : Nat) : List String :=
  if places = 0 then [] else [".", padded places fraction]

/-- A finite number in units of the last place shown, rounded to the nearest and half-way to
even. -/
def scaled (places significand shift : Nat) : Nat :=
  roundHalfEven ((significand <<< shift) * Nat.pow 10 places) (1 <<< 149)

theorem pieces_finite {places : Nat} {x : Float32} {negative : Bool} {significand shift : Nat}
    (h : parts x.toBits = .finite negative significand shift) :
    pieces places x = sign negative ++
      (Nat.repr (scaled places significand shift / 10 ^ places) ::
        fractionPieces places (scaled places significand shift % 10 ^ places)) := by
  rw [pieces, h, fractionPieces]
  dsimp only
  split
  · rfl
  · exact List.append_assoc _ _ _

theorem join_fractionPieces (places fraction : Nat) :
    String.join (fractionPieces places fraction) =
      if places = 0 then "" else "." ++ padded places fraction := by
  unfold fractionPieces
  split <;> simp

theorem size_fractionPieces {places fraction : Nat} (h : fraction < 10 ^ places) :
    (String.join (fractionPieces places fraction)).utf8ByteSize =
      if places = 0 then 0 else places + 1 := by
  rw [join_fractionPieces]
  split
  · rfl
  · next hplaces =>
    rw [String.utf8ByteSize_append, size_padded (Nat.pos_of_ne_zero hplaces) h, Nat.add_comm]
    rfl

theorem size_sign_le (negative : Bool) : (String.join (sign negative)).utf8ByteSize ≤ 1 := by
  cases negative <;> decide

theorem dropWhile_sign (negative : Bool) (rest : List Char) :
    ((String.join (sign negative)).toList ++ rest).dropWhile (· = '-') =
      rest.dropWhile (· = '-') := by
  apply List.dropWhile_append_of_pos
  cases negative with
  | false => exact List.forall_mem_nil _
  | true => exact List.forall_mem_singleton.mpr (decide_eq_true rfl)

theorem takeWhile_fraction (places fraction : Nat) :
    (String.join (fractionPieces places fraction)).toList.takeWhile (·.isDigit) = [] := by
  rw [join_fractionPieces]
  split
  · rfl
  · rw [String.toList_append]
    rfl

theorem integerDigits_finite {places : Nat} {x : Float32} {negative : Bool}
    {significand shift : Nat} (h : parts x.toBits = .finite negative significand shift) :
    integerDigits places x =
      (Nat.repr (scaled places significand shift / 10 ^ places)).toList := by
  rw [integerDigits, fixed, pieces_finite h, String.join_append, String.join_cons,
    String.toList_append, String.toList_append, dropWhile_sign]
  generalize scaled places significand shift / 10 ^ places = integer
  have hdigits : ∀ c ∈ (Nat.repr integer).toList, c.isDigit := fun _ => isDigit_of_mem_repr
  have hfirst : ∀ rest, ((Nat.repr integer).toList ++ rest).dropWhile (· = '-') =
      (Nat.repr integer).toList ++ rest := by
    intro rest
    cases hrepr : (Nat.repr integer).toList with
    | nil =>
      have hlength := Nat.length_toDigits_pos (b := 10) (n := integer)
      rw [Nat.repr_eq_ofList_toDigits, String.toList_ofList] at hrepr
      simp [hrepr] at hlength
    | cons c digits =>
      have hc : c.isDigit := hdigits c (hrepr ▸ List.mem_cons_self)
      have hsign : c ≠ '-' := by
        rintro rfl
        exact absurd hc (by decide)
      rw [List.cons_append, List.dropWhile_cons_of_neg (by simpa using hsign)]
  rw [hfirst, List.takeWhile_append_of_pos hdigits, takeWhile_fraction, List.append_nil]

def NotFinite (x : Float32) : Prop :=
  parts x.toBits = .nan ∨ ∃ negative, parts x.toBits = .infinite negative

theorem toBits_inj {x y : Float32} (h : x.toBits = y.toBits) : x = y := by
  obtain ⟨⟨bits, hx⟩⟩ := x
  obtain ⟨⟨other, hy⟩⟩ := y
  obtain rfl : bits = other := h
  rfl

/-- A computed NaN has the one pattern of bits that stands for all of them. -/
theorem toBits_nan {x : Float32} (hexponent : x.toBits.toNat / 0x800000 % 0x100 = 255)
    (hfraction : x.toBits.toNat % 0x800000 ≠ 0) : x.toBits = 0x7FC00000 := by
  obtain ⟨⟨bits, hvalid⟩⟩ := x
  change bits.toNat / 0x800000 % 0x100 = 255 at hexponent
  change bits.toNat % 0x800000 ≠ 0 at hfraction
  have hpacked := hvalid.eq_packedNaN ?_ ?_
  · exact UInt32.toBitVec_inj.mp hpacked
  · apply BitVec.eq_of_toNat_eq
    simpa [Float.Model.UnpackedFloat.unpackExponent, Nat.shiftRight_eq_div_pow] using hexponent
  · intro hmantissa
    apply hfraction
    have hlow := congrArg BitVec.toNat hmantissa
    simpa [Float.Model.UnpackedFloat.unpackMantissa] using hlow

theorem toBits_infinite {bits : UInt32} (hexponent : bits.toNat / 0x800000 % 0x100 = 255)
    (hfraction : bits.toNat % 0x800000 = 0) : bits = 0x7F800000 ∨ bits = 0xFF800000 := by
  have hbits := bits.toNat_lt
  have hplus : (0x7F800000 : UInt32).toNat = 0x7F800000 := rfl
  have hminus : (0xFF800000 : UInt32).toNat = 0xFF800000 := rfl
  rw [← UInt32.toNat_inj, ← UInt32.toNat_inj, hplus, hminus]
  omega

theorem NotFinite.exponent {x : Float32} (h : NotFinite x) :
    x.toBits.toNat / 0x800000 % 0x100 = 255 := by
  by_cases hexponent : x.toBits.toNat / 0x800000 % 0x100 = 255
  · exact hexponent
  · have hfinite : ∃ negative significand shift,
        parts x.toBits = .finite negative significand shift := by
      simp only [parts, hexponent, if_false]
      split <;> exact ⟨_, _, _, rfl⟩
    obtain ⟨negative, significand, shift, hparts⟩ := hfinite
    rcases h with h | ⟨_, h⟩ <;> rw [hparts] at h <;> cases h

/-- A hundredth of an infinity is an infinity, and of a NaN a NaN. So a pressure that is not finite
is shown as such in any unit. -/
theorem NotFinite.hundredth {x : Float32} (h : NotFinite x) : NotFinite (x / 100) := by
  have hexponent := h.exponent
  have hbits : x.toBits = 0x7F800000 ∨ x.toBits = 0xFF800000 ∨ x.toBits = 0x7FC00000 := by
    by_cases hfraction : x.toBits.toNat % 0x800000 = 0
    · rcases toBits_infinite hexponent hfraction with hplus | hminus
      · exact .inl hplus
      · exact .inr (.inl hminus)
    · exact .inr (.inr (toBits_nan hexponent hfraction))
  have hx (bits : UInt32) (hsame : (Float32.ofBits bits).toBits = bits) (h : x.toBits = bits) :
      x = Float32.ofBits bits := toBits_inj (h.trans hsame.symm)
  rcases hbits with hplus | hminus | hnan
  · rw [hx _ (by decide +kernel) hplus]
    exact .inr ⟨false, by decide +kernel⟩
  · rw [hx _ (by decide +kernel) hminus]
    exact .inr ⟨true, by decide +kernel⟩
  · rw [hx _ (by decide +kernel) hnan]
    exact .inl (by decide +kernel)

/-- The number is shown with at most so many digits in front of the point, or it is no finite
number. -/
def Brief (digits places : Nat) (x : Float32) : Prop :=
  NotFinite x ∨ (integerDigits places x).length ≤ digits

/-- A text that is brief is no longer than a sign, its digits, the point and the places. An infinity
and a NaN have three letters. -/
theorem size_fixed_le {digits places : Nat} {x : Float32} (hdigits : 3 ≤ digits)
    (h : Brief digits places x) :
    (fixed places x).utf8ByteSize ≤ 1 + digits + if places = 0 then 0 else places + 1 := by
  cases hparts : parts x.toBits with
  | nan =>
    have htext : fixed places x = "NaN" := by simp [fixed, pieces, hparts]
    have hsize : "NaN".utf8ByteSize = 3 := by decide
    rw [htext]
    omega
  | infinite negative =>
    have htext : fixed places x = String.join (sign negative) ++ "inf" := by
      simp [fixed, pieces, hparts]
    have hsign := size_sign_le negative
    have hsize : "inf".utf8ByteSize = 3 := by decide
    rw [htext, String.utf8ByteSize_append]
    omega
  | finite negative significand shift =>
    have hinteger : (integerDigits places x).length ≤ digits := by
      simpa [Brief, NotFinite, hparts] using h
    rw [integerDigits_finite hparts, String.length_toList] at hinteger
    have hfraction : scaled places significand shift % 10 ^ places < 10 ^ places :=
      Nat.mod_lt _ (Nat.pow_pos (by decide))
    have hsign := size_sign_le negative
    rw [fixed, pieces_finite hparts, String.join_append, String.join_cons,
      String.utf8ByteSize_append, String.utf8ByteSize_append, size_repr,
      size_fractionPieces hfraction]
    omega

end AirStation.Single
