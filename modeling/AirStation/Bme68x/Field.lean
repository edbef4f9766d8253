import AirStation.Bme68x.Calibration
import AirStation.Bme68x.Settings

/-!
A field of the BME68x: the 17 registers that one measurement leaves behind. It is parsed into raw
values and a status, and compensated into a reading. Each quantity has its own bytes, except that
the gas value shares one with its range and two status bits.

Where the gas value lies depends on the variant of the part. The registers of the other variant are
not looked at, so they may hold anything.
-/

namespace AirStation.Bme68x

/-- Registers of one field. Fields follow one another without a gap. -/
abbrev fieldLength : Nat := 17

/-- The values of a field as the device gives them, before the trimming is applied. Each is kept in
the smallest word that holds it. -/
structure RawField where
  /-- Only the bits for new data, a valid gas measurement and a stable heater. -/
  status : UInt8
  gasIndex : UInt8
  pressure : UInt32
  temperature : UInt32
  humidity : UInt16
  gas : UInt16
  gasRange : UInt8
deriving DecidableEq, Repr

/-- Twenty bits from two bytes and the upper half of a third. -/
def twentyBits (high middle low : UInt8) : UInt32 :=
  (high.toUInt32 <<< 12) ||| (middle.toUInt32 <<< 4) ||| (low.toUInt32 >>> 4)

namespace RawField

/-- Cuts the raw values out of the registers of a field. The gas registers of the other variant are
not looked at. -/
def parse (bytes : Vector UInt8 fieldLength) (variant : Variant) : RawField :=
  let (gasHigh, gasLow) := match variant with
    | .gasLow => (bytes[13], bytes[14])
    | .gasHigh => (bytes[15], bytes[16])
  { status := (bytes[0] &&& Status.newData) |||
      (gasLow &&& (Status.gasValid ||| Status.heatStable))
    gasIndex := bytes[0] &&& 0x0F
    pressure := twentyBits bytes[2] bytes[3] bytes[4]
    temperature := twentyBits bytes[5] bytes[6] bytes[7]
    humidity := Word.ofBytes bytes[8] bytes[9]
    gas := (gasHigh.toUInt16 <<< 2) ||| (gasLow.toUInt16 >>> 6)
    gasRange := gasLow &&& 0x0F }

/-- Whether all bits of the mask are set in the status. -/
def has (f : RawField) (mask : UInt8) : Bool :=
  f.status &&& mask == mask

end RawField

/-- One reading of the BME68x. The gas resistance means something only if `gasValid` says so. -/
structure Reading where
  temperature : Float32
  humidity : Float32
  pressure : Float32
  gasResistance : UInt32
  /-- The heater step that produced the gas measurement. -/
  gasIndex : UInt8
  gasValid : Bool

/-- Whole ohms, or zero as a placeholder when nothing was heated. -/
def gasResistance (settings : Settings) (variant : Variant) (c : Calibration)
    (f : RawField) : UInt32 :=
  if settings.heater.active then
    match variant with
    | .gasLow => (c.gasResistanceLow f.gas f.gasRange).toUInt32
    | .gasHigh => (Calibration.gasResistanceHigh f.gas f.gasRange).toUInt32
  else 0

/-- The reading for a field of this part. Temperature comes first, since the others are corrected
with it. The gas measurement is valid if the status of the field says so. -/
def compensate (settings : Settings) (variant : Variant) (c : Calibration)
    (f : RawField) : Reading :=
  let fine := c.fineTemperature f.temperature
  { temperature := Calibration.temperature fine
    humidity := c.humidity f.humidity fine
    pressure := c.pressure f.pressure fine
    gasResistance := gasResistance settings variant c f
    gasIndex := f.gasIndex
    gasValid := f.has (Status.gasValid ||| Status.heatStable) }

theorem slot_register_lt {count : Nat} (slot : Fin count) (i : Fin fieldLength) :
    fieldLength * slot.val + i.val < fieldLength * count :=
  calc fieldLength * slot.val + i.val
    _ < fieldLength * (slot.val + 1) := by rw [Nat.mul_succ]; omega
    _ ≤ fieldLength * count := Nat.mul_le_mul_left _ slot.isLt

/-- The registers of one slot in a burst read over several of them. -/
def slotBytes {count : Nat} (bytes : Vector UInt8 (fieldLength * count)) (slot : Fin count) :
    Vector UInt8 fieldLength :=
  Vector.ofFn fun i => bytes.get ⟨fieldLength * slot.val + i.val, slot_register_lt slot i⟩

/-- The fields of a burst read, first slot first. All of them are parsed for the same variant. -/
def burstFields {count : Nat} (bytes : Vector UInt8 (fieldLength * count)) (variant : Variant) :
    List RawField :=
  (List.finRange count).map fun slot => RawField.parse (slotBytes bytes slot) variant

end AirStation.Bme68x
