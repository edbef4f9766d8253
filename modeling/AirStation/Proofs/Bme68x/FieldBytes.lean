import AirStation.Proofs.Bme68x.Slots

/-!
Which bytes of a slot a field is read from, and what they can carry. A field that was written for a
part is read back for that part up to the width of each quantity, and no byte but its own has a part
in it (`field_survives_its_slot`).

The two variants share a slot of seventeen bytes and differ in where the gas value lies: bytes 13
and 14 for a low-range part, 15 and 16 for a high-range one. So a slot may still hold the gas value
of another part, and reading must not look at it.
-/

namespace AirStation.Bme68x

/-- The bytes of a slot that a part's field is read from. The gas value lies in the two bytes of the
part; the other part's two are not looked at, and neither are byte 1 and bytes 10 to 12. -/
def ReadFrom (variant : Variant) (place : Fin fieldLength) : Prop :=
  place.val = 0 ∨ (2 ≤ place.val ∧ place.val ≤ 9) ∨
    match variant with
    | .gasLow => place.val = 13 ∨ place.val = 14
    | .gasHigh => place.val = 15 ∨ place.val = 16

instance (variant : Variant) (place : Fin fieldLength) : Decidable (ReadFrom variant place) := by
  unfold ReadFrom
  cases variant <;> infer_instance

/-- The bits of the status byte that stand for none of its three marks. -/
def Status.others : UInt8 :=
  ~~~(newData ||| gasValid ||| heatStable)

namespace RawField

/-- Two slots that agree in the bytes a part reads are the same field to it. -/
theorem parse_congr {variant : Variant} {bytes other : Vector UInt8 fieldLength}
    (h : ∀ place, ReadFrom variant place → bytes.get place = other.get place) :
    parse bytes variant = parse other variant := by
  have hstatus : bytes[0] = other[0] := h 0 (.inl rfl)
  have hquantity (place : Fin fieldLength) (hlow : 2 ≤ place.val) (hhigh : place.val ≤ 9) :
      bytes.get place = other.get place := h place (.inr (.inl ⟨hlow, hhigh⟩))
  have hp0 : bytes[2] = other[2] := hquantity 2 (by decide) (by decide)
  have hp1 : bytes[3] = other[3] := hquantity 3 (by decide) (by decide)
  have hp2 : bytes[4] = other[4] := hquantity 4 (by decide) (by decide)
  have ht0 : bytes[5] = other[5] := hquantity 5 (by decide) (by decide)
  have ht1 : bytes[6] = other[6] := hquantity 6 (by decide) (by decide)
  have ht2 : bytes[7] = other[7] := hquantity 7 (by decide) (by decide)
  have hh0 : bytes[8] = other[8] := hquantity 8 (by decide) (by decide)
  have hh1 : bytes[9] = other[9] := hquantity 9 (by decide) (by decide)
  cases variant with
  | gasLow =>
    have hg0 : bytes[13] = other[13] := h 13 (.inr (.inr (.inl rfl)))
    have hg1 : bytes[14] = other[14] := h 14 (.inr (.inr (.inr rfl)))
    simp only [parse, hstatus, hp0, hp1, hp2, ht0, ht1, ht2, hh0, hh1, hg0, hg1]
  | gasHigh =>
    have hg0 : bytes[15] = other[15] := h 15 (.inr (.inr (.inl rfl)))
    have hg1 : bytes[16] = other[16] := h 16 (.inr (.inr (.inr rfl)))
    simp only [parse, hstatus, hp0, hp1, hp2, ht0, ht1, ht2, hh0, hh1, hg0, hg1]

end RawField

namespace SimulatedField

variable (f : SimulatedField)

theorem toNat_twentyBits (adc : UInt32) : (adc &&& 0xFFFFF).toNat = adc.toNat % 0x100000 := by
  rw [UInt32.toNat_and]
  exact Nat.and_two_pow_sub_one_eq_mod _ 20

theorem toNat_tenBits (gas : UInt16) : (gas &&& 0x3FF).toNat = gas.toNat % 0x400 := by
  rw [UInt16.toNat_and]
  exact Nat.and_two_pow_sub_one_eq_mod _ 10

theorem toNat_fourBits (x : UInt8) : (x &&& 0x0F).toNat = x.toNat % 16 := by
  rw [UInt8.toNat_and]
  exact Nat.and_two_pow_sub_one_eq_mod _ 4

/-- The status of the raw field has each of its three bits exactly if the field has the mark. -/
theorem raw_marks : f.raw.has Status.newData = f.newData ∧
    f.raw.has Status.gasValid = f.gasValid ∧ f.raw.has Status.heatStable = f.heatStable := by
  simp only [RawField.has, raw, newDataBit, gasBits]
  cases f.newData <;> cases f.gasValid <;> cases f.heatStable <;> exact ⟨rfl, rfl, rfl⟩

theorem raw_status_others : f.raw.status &&& Status.others = 0 := by
  simp only [raw, newDataBit, gasBits]
  cases f.newData <;> cases f.gasValid <;> cases f.heatStable <;> rfl

/-- A field that is written over any old contents of a slot, and read for the part it was written
for, comes back up to the width of its quantities, with its three marks and no other. What the slot
held before, the gas value of the other part included, has no influence, and in general reading
looks at the bytes of `ReadFrom` and at no others. -/
theorem field_survives_its_slot (variant : Variant) :
    (∀ (f : SimulatedField) (old : Vector UInt8 fieldLength),
      let r := RawField.parse (f.encode variant old) variant
      r.temperature.toNat = f.temperature.toNat % 0x100000 ∧
      r.pressure.toNat = f.pressure.toNat % 0x100000 ∧
      r.humidity = f.humidity ∧
      r.gas.toNat = f.gas.toNat % 0x400 ∧
      r.gasRange.toNat = f.gasRange.toNat % 16 ∧
      r.gasIndex.toNat = f.gasIndex.toNat % 16 ∧
      (r.has Status.newData = f.newData ∧ r.has Status.gasValid = f.gasValid ∧
        r.has Status.heatStable = f.heatStable) ∧
      r.status &&& Status.others = 0 ∧
      ∀ other, RawField.parse (f.encode variant other) variant = r) ∧
    ∀ bytes other : Vector UInt8 fieldLength,
      (∀ place, ReadFrom variant place → bytes.get place = other.get place) →
        RawField.parse bytes variant = RawField.parse other variant := by
  refine ⟨fun f old => ?_, fun bytes other => RawField.parse_congr⟩
  intro r
  have hr : r = f.raw := f.parse_encode variant old
  rw [hr]
  exact ⟨toNat_twentyBits _, toNat_twentyBits _, rfl, toNat_tenBits _, toNat_fourBits _,
    toNat_fourBits _, f.raw_marks, f.raw_status_others, fun other => f.parse_encode variant other⟩

/-- Two slots that differ in every byte a low-range part does not own. -/
theorem field_survives_its_slot_stale :
    let old : Vector UInt8 fieldLength := .replicate fieldLength 0xFF
    let bytes := valid.encode .gasLow old
    let other := valid.encode .gasLow (.replicate fieldLength 0)
    (∀ place, ReadFrom .gasLow place → bytes.get place = other.get place) ∧
      bytes.get 15 ≠ other.get 15 ∧
      RawField.parse bytes .gasLow = RawField.parse other .gasLow := by
  intro old bytes other
  have hagree : ∀ place, ReadFrom .gasLow place → bytes.get place = other.get place := by decide
  exact ⟨hagree, by decide, (field_survives_its_slot .gasLow).2 bytes other hagree⟩

end SimulatedField

end AirStation.Bme68x
