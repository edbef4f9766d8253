import AirStation.Proofs.Blob.Number

/-!
What is written: the position that stands for a constructor, bounds on the bytes of each kind of
value, and the buffers that they fit into. A blob is put together first and compared with the size
of its buffer afterwards, so whether it fits is a question of its length alone.

The bounds are those of the words: a number of sixteen bits takes three bytes at most and one of 32
bits five. A position is below 128 in every type there is, and takes one.
-/

namespace AirStation.Blob

variable {ε : Type} {wrap : EncodeError → ε} {capacity : Nat} {bytes : List UInt8}

/-- A blob goes into a buffer exactly if the buffer is long enough, and it is what was written. -/
theorem fit_eq_ok_iff {blob : List UInt8} :
    (fit capacity bytes).mapError wrap = .ok blob ↔ blob = bytes ∧ bytes.length ≤ capacity := by
  by_cases hlength : bytes.length ≤ capacity
  · rw [fit, if_pos hlength]
    constructor
    · intro h
      exact ⟨(Except.ok.inj h).symm, hlength⟩
    · rintro ⟨rfl, -⟩
      rfl
  · rw [fit, if_neg hlength]
    constructor
    · intro h
      nomatch h
    · rintro ⟨-, hfits⟩
      exact absurd hfits hlength

theorem fit_eq_error_iff {e : ε} :
    (fit capacity bytes).mapError wrap = .error e ↔
      e = wrap .bufferFull ∧ capacity < bytes.length := by
  by_cases hlength : bytes.length ≤ capacity
  · rw [fit, if_pos hlength]
    constructor
    · intro h
      nomatch h
    · rintro ⟨-, hfull⟩
      exact absurd hlength (Nat.not_le.mpr hfull)
  · rw [fit, if_neg hlength]
    constructor
    · intro h
      exact ⟨(Except.error.inj h).symm, Nat.not_le.mp hlength⟩
    · rintro ⟨rfl, -⟩
      rfl

theorem length_bool (b : Bool) : (bool b).length = 1 := rfl

theorem length_word32 (w : UInt32) : (word32 w).length = 4 := rfl

theorem length_varint_uint16 (n : UInt16) : (varint n.toNat).length ≤ 3 :=
  @length_varint_le _ 2 (Nat.lt_trans n.toNat_lt (by decide))

theorem length_varint_uint32 (n : UInt32) : (varint n.toNat).length ≤ 5 :=
  @length_varint_le _ 4 (Nat.lt_trans n.toNat_lt (by decide))

theorem length_varint_small {n : Nat} (hn : n < 0x80) : (varint n).length = 1 := by
  rw [varint_low hn]
  rfl

theorem length_flatMap_le {α : Type} {toBlob : α → List UInt8} {most : Nat}
    (h : ∀ a, (toBlob a).length ≤ most) (values : List α) :
    (values.flatMap toBlob).length ≤ values.length * most := by
  induction values with
  | nil => simp
  | cons first values ih =>
    have hfirst := h first
    rw [List.flatMap_cons, List.length_append, List.length_cons, Nat.succ_mul]
    omega

variable {α : Type}

/-- The list has every constructor at its position, and is so short that a position takes one
byte. -/
structure Enumerates (constructors : List α) (position : α → Nat) : Prop where
  complete : ∀ a, constructors[position a]? = some a
  positions : constructors.map position = List.range constructors.length
  small : constructors.length < 0x80

theorem Enumerates.position_eq {constructors : List α} {position : α → Nat}
    (h : Enumerates constructors position) {i : Nat} {a : α} (ha : constructors[i]? = some a) :
    position a = i := by
  have hmapped : (constructors.map position)[i]? = some (position a) := by
    rw [List.getElem?_map, ha]
    rfl
  rw [h.positions, List.getElem?_eq_some_iff] at hmapped
  obtain ⟨hi, hposition⟩ := hmapped
  rw [← hposition, List.getElem_range]

theorem Enumerates.position_lt {constructors : List α} {position : α → Nat}
    (h : Enumerates constructors position) (a : α) : position a < constructors.length :=
  (List.getElem?_eq_some_iff.mp (h.complete a)).1

theorem Enumerates.length_varint {constructors : List α} {position : α → Nat}
    (h : Enumerates constructors position) (a : α) : (varint (position a)).length = 1 :=
  length_varint_small (Nat.lt_trans (h.position_lt a) h.small)

end AirStation.Blob
