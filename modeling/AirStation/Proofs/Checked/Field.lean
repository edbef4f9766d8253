import AirStation.Bme68x.Field
import AirStation.Proofs.Checked.Operation

/-!
Reading the fields of a BME68x with every operation checked. Fields follow one another in the bytes
of a burst, a field has all the registers that are looked at, and a gas range has its place in both
tables and is a shift within the word. The divisor of the high-range formula is positive for every
raw value.

The compensation itself is in single precision, where every operation has a result. So all the
checks are about places in tables and slices, and about the whole numbers in the gas formulas.
-/

namespace AirStation.Bme68x.Checked

open AirStation.Checked

/-- The low-range formula looks into two tables by the gas range and shifts by it. -/
def gasResistanceLow (c : Calibration) (adc : UInt16) (range : UInt8) : Checked Float32 := do
  let index := range.toNat % 16
  let base := 1340 + 5 * Calibration.byte c.rangeError
  let percent ← lookUp Calibration.rangeOffset.toList index
  let offset := base * (1 + percent / 100)
  let percent ← lookUp Calibration.rangeGain.toList index
  let gain := 1 + percent / 100
  let places ← within 32 index
  let scale := ((1 : UInt32) <<< UInt32.ofNat places).toFloat32
  return 1 / (gain * 0.000000125 * scale * ((Calibration.unsigned adc - 512) / offset + 1))

theorem gasResistanceLow_eq (c : Calibration) (adc : UInt16) (range : UInt8) :
    gasResistanceLow c adc range = .ok (c.gasResistanceLow adc range) := by
  have hindex : range.toNat % 16 < 16 := Nat.mod_lt _ (by decide)
  unfold gasResistanceLow
  dsimp only
  rw [lookUp_toList _ hindex, ok_bind, lookUp_toList _ hindex, ok_bind,
    within_of_lt (by omega), ok_bind]
  rfl

/-- The high-range formula works with signed words before it divides, so its three steps are checked
as such. -/
def gasResistanceHigh (adc : UInt16) (range : UInt8) : Checked Float32 := do
  let places := range &&& 0x0F
  let _ ← within 32 places.toNat
  let full := ((262144 : UInt32) >>> places.toUInt32).toFloat32
  let centred ← int32 ((adc.toNat : Int) - 512)
  let scaled ← int32 (centred * 3)
  let scale ← int32 (scaled + 4096)
  let scale ← divisor scale
  return 1000000 * full / Float32.ofInt scale

theorem gasResistanceHigh_eq (adc : UInt16) (range : UInt8) :
    gasResistanceHigh adc range = .ok (Calibration.gasResistanceHigh adc range) := by
  have hadc := adc.toNat_lt
  have hplaces : (range &&& 0x0F).toNat ≤ 15 := Nat.and_le_right
  have hfits (n : Int) (h : -10000 ≤ n ∧ n ≤ 1000000) : int32 n = .ok n :=
    int32_of_mem (by unfold Single.leastInt32 Single.greatestInt32; omega)
  unfold gasResistanceHigh
  dsimp only
  rw [within_of_lt (by omega), ok_bind, hfits _ (by omega), ok_bind, hfits _ (by omega), ok_bind,
    hfits _ (by omega), ok_bind, divisor_of_pos (by omega), ok_bind]
  rfl

/-- The two registers in which a variant reports its gas measurement, looked up among those of the
slot. -/
def gasBytes (bytes : List UInt8) : Variant → Checked (UInt8 × UInt8)
  | .gasLow => do
    let high ← lookUp bytes 13
    let low ← lookUp bytes 14
    return (high, low)
  | .gasHigh => do
    let high ← lookUp bytes 15
    let low ← lookUp bytes 16
    return (high, low)

/-- Every byte of a field is looked up at its place, and the field has to be long enough. -/
def parse (bytes : List UInt8) (variant : Variant) : Checked RawField := do
  let (gasHigh, gasLow) ← gasBytes bytes variant
  let status ← lookUp bytes 0
  let p0 ← lookUp bytes 2
  let p1 ← lookUp bytes 3
  let p2 ← lookUp bytes 4
  let t0 ← lookUp bytes 5
  let t1 ← lookUp bytes 6
  let t2 ← lookUp bytes 7
  let h0 ← lookUp bytes 8
  let h1 ← lookUp bytes 9
  return {
    status := (status &&& Status.newData) |||
      (gasLow &&& (Status.gasValid ||| Status.heatStable))
    gasIndex := status &&& 0x0F
    pressure := twentyBits p0 p1 p2
    temperature := twentyBits t0 t1 t2
    humidity := Word.ofBytes h0 h1
    gas := (gasHigh.toUInt16 <<< 2) ||| (gasLow.toUInt16 >>> 6)
    gasRange := gasLow &&& 0x0F }

theorem parse_eq (bytes : Vector UInt8 fieldLength) (variant : Variant) :
    parse bytes.toList variant = .ok (RawField.parse bytes variant) := by
  unfold parse
  cases variant with
  | gasLow => simp (disch := decide) only [gasBytes, lookUp_toList, ok_bind, pure_bind]; rfl
  | gasHigh => simp (disch := decide) only [gasBytes, lookUp_toList, ok_bind, pure_bind]; rfl

def gasResistance (settings : Settings) (variant : Variant) (c : Calibration) (f : RawField) :
    Checked UInt32 :=
  if settings.heater.active then
    match variant with
    | .gasLow => do
      let ohms ← gasResistanceLow c f.gas f.gasRange
      return ohms.toUInt32
    | .gasHigh => do
      let ohms ← gasResistanceHigh f.gas f.gasRange
      return ohms.toUInt32
  else return 0

/-- Only the gas resistance has something to check, and only while the heater is active. -/
def compensate (settings : Settings) (variant : Variant) (c : Calibration) (f : RawField) :
    Checked Reading := do
  let fine := c.fineTemperature f.temperature
  let gasResistance ← gasResistance settings variant c f
  return {
    temperature := Calibration.temperature fine
    humidity := c.humidity f.humidity fine
    pressure := c.pressure f.pressure fine
    gasResistance
    gasIndex := f.gasIndex
    gasValid := f.has (Status.gasValid ||| Status.heatStable) }

theorem gasResistance_eq (settings : Settings) (variant : Variant) (c : Calibration)
    (f : RawField) :
    gasResistance settings variant c f = .ok (Bme68x.gasResistance settings variant c f) := by
  unfold gasResistance Bme68x.gasResistance
  split
  · cases variant with
    | gasLow => dsimp only; rw [gasResistanceLow_eq, ok_bind]; rfl
    | gasHigh => dsimp only; rw [gasResistanceHigh_eq, ok_bind]; rfl
  · rfl

theorem compensate_eq (settings : Settings) (variant : Variant) (c : Calibration) (f : RawField) :
    compensate settings variant c f = .ok (Bme68x.compensate settings variant c f) := by
  unfold compensate
  rw [gasResistance_eq, ok_bind]
  rfl

/-- The fields of a burst, cut from its bytes one after another, each with the length of a field. -/
def burstFields (bytes : List UInt8) (count : Nat) (variant : Variant) : Checked (List RawField) :=
  (List.finRange count).mapM fun slot => do
    let field ← slice bytes (fieldLength * slot.val) fieldLength
    parse field variant

theorem slice_slotBytes {count : Nat} (bytes : Vector UInt8 (fieldLength * count))
    (slot : Fin count) :
    slice bytes.toList (fieldLength * slot.val) fieldLength =
      .ok (slotBytes bytes slot).toList := by
  have hroom : fieldLength * slot.val + fieldLength ≤ fieldLength * count := by
    rw [← Nat.mul_succ]
    exact Nat.mul_le_mul_left _ slot.isLt
  rw [slice_of_le (by simpa using hroom)]
  refine congrArg _ (List.ext_getElem ?_ fun i hi hi' => ?_)
  · simp
    omega
  · simp [slotBytes, Vector.get]

theorem burstFields_eq {count : Nat} (bytes : Vector UInt8 (fieldLength * count))
    (variant : Variant) :
    burstFields bytes.toList count variant = .ok (Bme68x.burstFields bytes variant) := by
  apply mapM_eq_ok
  intro slot _
  rw [slice_slotBytes, ok_bind, parse_eq]

end AirStation.Bme68x.Checked
