import AirStation.Proofs.Bme68x.Registers
import Mathlib.Data.List.FinRange

/-!
What a slot says. A field that is encoded for a part is parsed back as the raw values that the
registers can hold, whatever the slot held before; a slot that nothing was measured for no longer
announces data. A burst read brings the slots as they are.

Most of the work lies in bits. A gas value shares its second byte with the range and two bits of the
status, and the two remaining parts of the status are in different bytes. Each of these is cut out
with a mask, so it is enough to say which mask leaves what.
-/

namespace AirStation.Bme68x

/-- A quantity of twenty bits is written into three bytes and put together from them without
loss. -/
theorem twentyBits_bytes (adc : UInt32) :
    twentyBits (adc >>> 12).toUInt8 (adc >>> 4).toUInt8 ((adc <<< 4) &&& 0xF0).toUInt8 =
      adc &&& 0xFFFFF := by
  apply UInt32.toBitVec_inj.mp
  apply BitVec.eq_of_getLsbD_eq
  intro i hi
  have h4 : UInt32.toBitVec 4 % 32 = 4#32 := rfl
  have h12 : UInt32.toBitVec 12 % 32 = 12#32 := rfl
  have hupper : ∀ i < 32, (UInt32.toBitVec 0xF0).getLsbD i = decide (4 ≤ i ∧ i < 8) := by decide
  have hmask : ∀ i < 32, (UInt32.toBitVec 0xFFFFF).getLsbD i = decide (i < 20) := by decide
  simp only [twentyBits, UInt32.toBitVec_or, UInt32.toBitVec_and, UInt32.toBitVec_shiftLeft,
    UInt32.toBitVec_shiftRight, UInt8.toBitVec_toUInt32, UInt32.toBitVec_toUInt8, h4, h12,
    BitVec.shiftLeft_eq', BitVec.ushiftRight_eq', BitVec.getLsbD_or, BitVec.getLsbD_and,
    BitVec.getLsbD_setWidth, BitVec.getLsbD_shiftLeft, BitVec.getLsbD_ushiftRight,
    BitVec.toNat_ofNat, Nat.reduceMod, Nat.reducePow]
  -- Each bit lies in exactly one of the three bytes.
  grind

/-- The two bytes of a gas value share the second one with the rest of the field, which stays below
the upper two bits. -/
theorem gas_bytes (gas : UInt16) {rest : UInt8}
    (hrest : ∀ i < 8, 6 ≤ i → rest.toBitVec.getLsbD i = false) :
    ((gas >>> 2).toUInt8.toUInt16 <<< 2) |||
      ((((gas &&& 0x03).toUInt8 <<< 6) ||| rest).toUInt16 >>> 6) = gas &&& 0x3FF := by
  apply UInt16.toBitVec_inj.mp
  apply BitVec.eq_of_getLsbD_eq
  intro i hi
  have h2 : UInt16.toBitVec 2 % 16 = 2#16 := rfl
  have h6 : UInt16.toBitVec 6 % 16 = 6#16 := rfl
  have h6' : UInt8.toBitVec 6 % 8 = 6#8 := rfl
  have hlower : ∀ i < 16, (UInt16.toBitVec 0x03).getLsbD i = decide (i < 2) := by decide
  have hmask : ∀ i < 16, (UInt16.toBitVec 0x3FF).getLsbD i = decide (i < 10) := by decide
  simp only [UInt16.toBitVec_or, UInt8.toBitVec_or, UInt16.toBitVec_and,
    UInt16.toBitVec_shiftLeft, UInt8.toBitVec_shiftLeft, UInt16.toBitVec_shiftRight,
    UInt8.toBitVec_toUInt16, UInt16.toBitVec_toUInt8, h2, h6, h6', BitVec.shiftLeft_eq',
    BitVec.ushiftRight_eq', BitVec.getLsbD_or, BitVec.getLsbD_and, BitVec.getLsbD_setWidth,
    BitVec.getLsbD_shiftLeft, BitVec.getLsbD_ushiftRight, BitVec.toNat_ofNat, Nat.reduceMod,
    Nat.reducePow]
  grind

/-- The lower bits of a gas value are out of the way of a mask of the lower six. -/
theorem upper_and (x : UInt8) {mask : UInt8}
    (hmask : ∀ i < 8, 6 ≤ i → mask.toBitVec.getLsbD i = false) : (x <<< 6) &&& mask = 0 := by
  apply UInt8.toBitVec_inj.mp
  apply BitVec.eq_of_getLsbD_eq
  intro i hi
  have h6 : UInt8.toBitVec 6 % 8 = 6#8 := rfl
  simp only [UInt8.toBitVec_and, UInt8.toBitVec_shiftLeft, h6, BitVec.shiftLeft_eq',
    BitVec.getLsbD_and, BitVec.getLsbD_shiftLeft, BitVec.toNat_ofNat, Nat.reduceMod, Nat.reducePow,
    UInt8.toBitVec_zero, BitVec.getLsbD_zero]
  grind

namespace SimulatedField

def newDataBit (f : SimulatedField) : UInt8 :=
  if f.newData then Status.newData else 0

def gasBits (f : SimulatedField) : UInt8 :=
  (if f.gasValid then Status.gasValid else 0) ||| (if f.heatStable then Status.heatStable else 0)

/-- What the registers of a slot can hold of the field: each quantity is cut to its width. -/
def raw (f : SimulatedField) : RawField where
  status := f.newDataBit ||| f.gasBits
  gasIndex := f.gasIndex &&& 0x0F
  pressure := f.pressure &&& 0xFFFFF
  temperature := f.temperature &&& 0xFFFFF
  humidity := f.humidity
  gas := f.gas &&& 0x3FF
  gasRange := f.gasRange &&& 0x0F

variable (f : SimulatedField)

theorem newDataBit_and_newData : f.newDataBit &&& Status.newData = f.newDataBit := by
  unfold newDataBit
  cases f.newData <;> rfl

theorem newDataBit_and_lower : f.newDataBit &&& 0x0F = 0 := by
  unfold newDataBit
  cases f.newData <;> rfl

theorem gasBits_and_status :
    f.gasBits &&& (Status.gasValid ||| Status.heatStable) = f.gasBits := by
  unfold gasBits
  cases f.gasValid <;> cases f.heatStable <;> rfl

theorem gasBits_and_lower : f.gasBits &&& 0x0F = 0 := by
  unfold gasBits
  cases f.gasValid <;> cases f.heatStable <;> rfl

/-- Below the two bits of the gas value stand the range and the status, one after the other. -/
theorem gasBytes_low :
    f.gasBytes.2 = (f.gas &&& 0x03).toUInt8 <<< 6 ||| ((f.gasRange &&& 0x0F) ||| f.gasBits) := by
  simp only [gasBytes, gasBits, UInt8.or_assoc]

theorem status_newData :
    (f.newDataBit ||| (f.gasIndex &&& 0x0F)) &&& Status.newData = f.newDataBit := by
  have hindex : (0x0F : UInt8) &&& Status.newData = 0 := rfl
  rw [and_or_right, newDataBit_and_newData, UInt8.and_assoc, hindex, UInt8.and_zero, UInt8.or_zero]

theorem status_gasIndex :
    (f.newDataBit ||| (f.gasIndex &&& 0x0F)) &&& 0x0F = f.gasIndex &&& 0x0F := by
  rw [and_or_right, newDataBit_and_lower, UInt8.and_assoc, UInt8.and_self, UInt8.zero_or]

theorem gasBytes_status :
    f.gasBytes.2 &&& (Status.gasValid ||| Status.heatStable) = f.gasBits := by
  have hrange : (0x0F : UInt8) &&& (Status.gasValid ||| Status.heatStable) = 0 := rfl
  have hgas := upper_and (f.gas &&& 0x03).toUInt8
    (by decide : ∀ i < 8, 6 ≤ i →
      (Status.gasValid ||| Status.heatStable).toBitVec.getLsbD i = false)
  rw [gasBytes_low, and_or_right, and_or_right, hgas, UInt8.and_assoc, hrange, UInt8.and_zero,
    gasBits_and_status, UInt8.zero_or, UInt8.zero_or]

theorem gasBytes_range : f.gasBytes.2 &&& 0x0F = f.gasRange &&& 0x0F := by
  have hgas := upper_and (f.gas &&& 0x03).toUInt8
    (by decide : ∀ i < 8, 6 ≤ i → (0x0F : UInt8).toBitVec.getLsbD i = false)
  rw [gasBytes_low, and_or_right, and_or_right, hgas, UInt8.and_assoc, UInt8.and_self,
    gasBits_and_lower, UInt8.or_zero, UInt8.zero_or]

theorem gasBytes_gas :
    (f.gasBytes.1.toUInt16 <<< 2) ||| (f.gasBytes.2.toUInt16 >>> 6) = f.gas &&& 0x3FF := by
  rw [gasBytes_low]
  apply gas_bytes
  have hrange : ∀ i < 8, 6 ≤ i → (0x0F : UInt8).toBitVec.getLsbD i = false := by decide
  have hbits : ∀ i < 8, 6 ≤ i → f.gasBits.toBitVec.getLsbD i = false := by
    unfold gasBits
    cases f.gasValid <;> cases f.heatStable <;> decide
  intro i hi hupper
  rw [UInt8.toBitVec_or, UInt8.toBitVec_and, BitVec.getLsbD_or, BitVec.getLsbD_and,
    hrange i hi hupper, hbits i hi hupper, Bool.and_false, Bool.or_false]

/-- Whatever the slot held before, the field is all that is read out of it, for the part it was
written for. -/
theorem parse_encode (variant : Variant) (old : Vector UInt8 fieldLength) :
    RawField.parse (f.encode variant old) variant = f.raw := by
  have hstatus : ((f.newDataBit ||| (f.gasIndex &&& 0x0F)) &&& Status.newData) |||
      (f.gasBytes.2 &&& (Status.gasValid ||| Status.heatStable)) = f.newDataBit ||| f.gasBits := by
    rw [f.status_newData, f.gasBytes_status]
  -- The bytes of the field are where the part puts them.
  cases variant
  all_goals exact (RawField.mk.injEq ..).mpr ⟨hstatus, f.status_gasIndex,
    twentyBits_bytes f.pressure, twentyBits_bytes f.temperature, Word.ofBytes_high_low f.humidity,
    f.gasBytes_gas, f.gasBytes_range⟩

/-- The field carries what the settings ask of a field: new data, and in parallel mode with a heated
plate a valid gas measurement at a stable temperature. -/
def qualifies (f : SimulatedField) (s : Settings) : Bool :=
  f.newData && (s.mode == .forced || !s.heater.active || (f.gasValid && f.heatStable))

/-- The mask of the driver asks of the raw field just what the settings ask of the field itself. -/
theorem has_raw (s : Settings) : f.raw.has s.requiredMask = f.qualifies s := by
  simp only [RawField.has, raw, newDataBit, gasBits, qualifies, Settings.requiredMask,
    Settings.validMask]
  cases s.mode <;> cases s.heater.active <;> cases f.newData <;> cases f.gasValid <;>
    cases f.heatStable <;> rfl

end SimulatedField

theorem newData_of_has {f : RawField} {s : Settings} (h : f.has s.requiredMask = true) :
    f.status &&& Status.newData = Status.newData := by
  have hmask : s.requiredMask &&& Status.newData = Status.newData := by
    unfold Settings.requiredMask Settings.validMask
    cases s.mode <;> cases s.heater.active <;> rfl
  have hhas : f.status &&& s.requiredMask = s.requiredMask := beq_iff_eq.mp h
  rw [← hmask, ← UInt8.and_assoc, hhas]

/-- Once its new-data bit is gone, a slot is not reported, whatever else it holds. -/
theorem not_has_of_cleared {bytes : Vector UInt8 fieldLength}
    (h : bytes.get 0 &&& Status.newData = 0) (variant : Variant) (s : Settings) :
    (RawField.parse bytes variant).has s.requiredMask = false := by
  have hstatus (gasLow : UInt8) : ((bytes.get 0 &&& Status.newData) |||
      (gasLow &&& (Status.gasValid ||| Status.heatStable))) &&& Status.newData = 0 := by
    have hgas : (Status.gasValid ||| Status.heatStable) &&& Status.newData = 0 := rfl
    rw [h, UInt8.zero_or, UInt8.and_assoc, hgas, UInt8.and_zero]
  rw [Bool.eq_false_iff]
  intro hhas
  have hnew := newData_of_has hhas
  cases variant <;> exact absurd ((hstatus _).symm.trans hnew) (by decide)

namespace Model

/-- The slots hold these fields, one each from the first slot on, and nothing new besides. The other
slots may hold older bytes, but they do not announce them. -/
structure Shows (m : Model) (fields : List SimulatedField) : Prop where
  held : ∀ slot : Fin 3, ∀ f, fields[slot.val]? = some f →
    RawField.parse (m.slotContents slot) m.variant = f.raw
  cleared : ∀ slot : Fin 3, fields[slot.val]? = none →
    (m.slotContents slot).get 0 &&& Status.newData = 0

variable {m m' : Model} {fields : List SimulatedField}

/-- A measurement leaves the slots showing what had been staged for it. -/
theorem shows_measure (m : Model) (mode : UInt8) : (m.measure mode).Shows m.staged := by
  have hvariant : (m.measure mode).variant = m.variant :=
    congrArg Prod.fst (m.part_measure mode)
  constructor
  · intro slot f hstaged
    rw [slotContents_measure, hvariant, measuredSlot, hstaged]
    exact f.parse_encode m.variant _
  · intro slot hstaged
    have hcleared : (0x7F : UInt8) &&& Status.newData = 0 := rfl
    rw [slotContents_measure, measuredSlot, hstaged]
    show (Vector.ofFn _)[0] &&& Status.newData = 0
    rw [Vector.getElem_ofFn]
    refine (congrArg (· &&& Status.newData) (if_pos rfl)).trans ?_
    rw [UInt8.and_assoc, hcleared, UInt8.and_zero]

theorem Shows.congr (h : m.Shows fields) (hvariant : m'.variant = m.variant)
    (hslots : ∀ slot, m'.slotContents slot = m.slotContents slot) : m'.Shows fields := by
  constructor
  · intro slot
    rw [hslots slot, hvariant]
    exact h.held slot
  · intro slot
    rw [hslots slot]
    exact h.cleared slot

theorem Shows.of_memory (h : m.Shows fields) (hmemory : m'.memory = m.memory) :
    m'.Shows fields :=
  h.congr (congrArg Prod.fst (part_of_memory hmemory)) (slotContents_of_memory hmemory)

theorem get_block (m : Model) (start : UInt8) {count : Nat} (i : Fin count) :
    (m.block start count).get i = m.register (start + UInt8.ofNat i.val) := by
  show (m.block start count)[i.val] = _
  rw [block, Vector.getElem_ofFn]

/-- The field that stands at a place of a burst, read for the part. -/
def fieldAt (m : Model) (place : Nat) : RawField :=
  .parse (m.block (Register.fields + UInt8.ofNat (fieldLength * place)) fieldLength) m.variant

theorem fieldAt_slot (m : Model) (slot : Fin 3) :
    m.fieldAt slot.val = .parse (m.slotContents slot) m.variant := by
  simp only [fieldAt, block, slotContents, UInt8.ofNat_add, UInt8.add_assoc]

theorem burstFields_block (m : Model) (count : Nat) :
    burstFields (m.block Register.fields (fieldLength * count)) m.variant =
      (List.range count).map m.fieldAt := by
  have hslot (slot : Fin count) :
      .parse (slotBytes (m.block Register.fields (fieldLength * count)) slot) m.variant =
        m.fieldAt slot.val := by
    have hbytes : slotBytes (m.block Register.fields (fieldLength * count)) slot =
        m.block (Register.fields + UInt8.ofNat (fieldLength * slot.val)) fieldLength := by
      apply Vector.ext
      intro i hi
      simp only [slotBytes, get_block, Vector.getElem_ofFn, UInt8.ofNat_add, ← UInt8.add_assoc]
      simp only [block, Vector.getElem_ofFn]
    rw [hbytes, fieldAt]
  simp only [burstFields, hslot, ← List.map_coe_finRange_eq_range, List.map_map, Function.comp_def]

theorem Shows.fieldAt (h : m.Shows fields) (s : Settings) {place : Nat} (hplace : place < 3) :
    [m.fieldAt place].filter (·.has s.requiredMask) =
      (fields[place]?.toList.filter (·.qualifies s)).map SimulatedField.raw := by
  have hfield : m.fieldAt place = .parse (m.slotContents ⟨place, hplace⟩) m.variant :=
    m.fieldAt_slot ⟨place, hplace⟩
  cases hstaged : fields[place]? with
  | some f =>
    rw [hfield, h.held ⟨place, hplace⟩ f hstaged]
    cases hqualifies : f.qualifies s <;> simp [f.has_raw, hqualifies]
  | none =>
    rw [hfield]
    simp [not_has_of_cleared (h.cleared ⟨place, hplace⟩ hstaged)]

/-- A burst over the first slots brings their fields as they were measured; what else it brings is
not acceptable to the driver. -/
theorem Shows.filter_burst (h : m.Shows fields) (s : Settings) {count : Nat} (hcount : count ≤ 3) :
    (burstFields (m.block Register.fields (fieldLength * count)) m.variant).filter
        (·.has s.requiredMask) =
      ((fields.take count).filter (·.qualifies s)).map SimulatedField.raw := by
  rw [burstFields_block]
  induction count with
  | zero => rfl
  | succ count ih =>
    rw [List.range_succ, List.map_append, List.filter_append, ih (Nat.le_of_succ_le hcount),
      List.take_add_one, List.filter_append, List.map_append]
    exact congrArg _ (h.fieldAt s hcount)

end Model

end AirStation.Bme68x
