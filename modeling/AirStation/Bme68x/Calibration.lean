import AirStation.Single.Basic
import AirStation.Word

/-!
Factory trimming of a BME68x and the compensation formulas, which turn a raw value and the trimming
into degrees, pascals, percent and ohms. Each formula is evaluated in single precision in the order
in which it stands, so its result is the same to the last bit wherever it is computed.

The trimming is read once, in three blocks, and kept. All other quantities depend on the
temperature, which is therefore computed first; the resistance of the heater plate goes the other
way, from degrees to a register value.
-/

namespace AirStation.Bme68x

/-- The trimming coefficients of one part, by the names its data sheet has for them. -/
structure Calibration where
  t1 : UInt16
  t2 : Int16
  t3 : Int8
  p1 : UInt16
  p2 : Int16
  p3 : Int8
  p4 : Int16
  p5 : Int16
  p6 : Int8
  p7 : Int8
  p8 : Int16
  p9 : Int16
  p10 : UInt8
  h1 : UInt16
  h2 : UInt16
  h3 : Int8
  h4 : Int8
  h5 : Int8
  h6 : UInt8
  h7 : Int8
  gh1 : Int8
  gh2 : Int16
  gh3 : Int8
  heatValue : Int8
  heatRange : UInt8
  rangeError : Int8
deriving DecidableEq, Repr

namespace Calibration

/-- The trimming of a part that has not been read yet. Readings that are made with it mean
nothing. -/
def zero : Calibration :=
  ⟨0, 0, 0, 0, 0, 0, 0, 0, 0, 0, 0, 0, 0, 0, 0, 0, 0, 0, 0, 0, 0, 0, 0, 0, 0, 0⟩

/-- Decodes the three coefficient blocks, put together in the order they are read. H1 and H2 share
the two halves of one byte. -/
def ofCoefficients (bytes : Vector UInt8 42) : Calibration where
  t1 := Word.ofBytes bytes[32] bytes[31]
  t2 := (Word.ofBytes bytes[1] bytes[0]).toInt16
  t3 := bytes[2].toInt8
  p1 := Word.ofBytes bytes[5] bytes[4]
  p2 := (Word.ofBytes bytes[7] bytes[6]).toInt16
  p3 := bytes[8].toInt8
  p4 := (Word.ofBytes bytes[11] bytes[10]).toInt16
  p5 := (Word.ofBytes bytes[13] bytes[12]).toInt16
  p6 := bytes[15].toInt8
  p7 := bytes[14].toInt8
  p8 := (Word.ofBytes bytes[19] bytes[18]).toInt16
  p9 := (Word.ofBytes bytes[21] bytes[20]).toInt16
  p10 := bytes[22]
  h1 := (bytes[25].toUInt16 <<< 4) ||| (bytes[24] &&& 0x0F).toUInt16
  h2 := (bytes[23].toUInt16 <<< 4) ||| (bytes[24] >>> 4).toUInt16
  h3 := bytes[26].toInt8
  h4 := bytes[27].toInt8
  h5 := bytes[28].toInt8
  h6 := bytes[29]
  h7 := bytes[30].toInt8
  gh1 := bytes[35].toInt8
  gh2 := (Word.ofBytes bytes[34] bytes[33]).toInt16
  gh3 := bytes[36].toInt8
  heatValue := bytes[37].toInt8
  heatRange := (bytes[39] &&& 0x30) >>> 4
  rangeError := (bytes[41] &&& 0xF0).toInt8 / 16

def byte (x : Int8) : Float32 :=
  Float32.ofInt x.toInt

def word (x : Int16) : Float32 :=
  Float32.ofInt x.toInt

def unsigned (x : UInt16) : Float32 :=
  x.toUInt32.toFloat32

/-- Fine temperature: 5120 times the degrees, which pressure and humidity are corrected with. -/
def fineTemperature (c : Calibration) (adc : UInt32) : Float32 :=
  let adc := adc.toFloat32
  let t1 := unsigned c.t1
  let linear := (adc / 16384 - t1 / 1024) * word c.t2
  let delta := adc / 131072 - t1 / 8192
  let quadratic := delta * delta * (byte c.t3 * 16)
  linear + quadratic

/-- Degrees Celsius. The fine temperature has them 5120 times, which is all that is left to undo. -/
def temperature (fine : Float32) : Float32 :=
  fine / 5120

/-- The slope of the pressure formula. It vanishes for a part without trimming, and then there is no
pressure. -/
def pressureSlope (c : Calibration) (fine : Float32) : Float32 :=
  let base := fine / 2 - 64000
  let slope := (byte c.p3 * base * base / 16384 + word c.p2 * base) / 524288
  (1 + slope / 32768) * unsigned c.p1

def pressureOffset (c : Calibration) (fine : Float32) : Float32 :=
  let base := fine / 2 - 64000
  let offset := base * base * (byte c.p6 / 131072)
  let offset := offset + base * word c.p5 * 2
  offset / 4 + word c.p4 * 65536

/-- Pascals, from the slope and the offset of this temperature. The result is zero where there is
nothing to divide by. -/
def pressure (c : Calibration) (adc : UInt32) (fine : Float32) : Float32 :=
  let slope := c.pressureSlope fine
  if Single.truncate slope = 0 then 0
  else
    let pressure := 1048576 - adc.toFloat32
    let pressure := (pressure - c.pressureOffset fine / 4096) * 6250 / slope
    let quadratic := word c.p9 * pressure * pressure / 2147483648
    let linear := pressure * (word c.p8 / 32768)
    let scaled := pressure / 256
    let cubic := scaled * scaled * scaled * (c.p10.toUInt32.toFloat32 / 131072)
    pressure + (quadratic + linear + cubic + byte c.p7 * 128) / 16

/-- Percent of relative humidity, corrected with the temperature and clamped to the physical
range. -/
def humidity (c : Calibration) (adc : UInt16) (fine : Float32) : Float32 :=
  let degrees := temperature fine
  let dry := unsigned adc - (unsigned c.h1 * 16 + byte c.h3 / 2 * degrees)
  let wet := dry *
    (unsigned c.h2 / 262144 *
      (1 + byte c.h4 / 16384 * degrees + byte c.h5 / 1048576 * degrees * degrees))
  let bend := c.h6.toUInt32.toFloat32 / 16384
  let drift := byte c.h7 / 2097152
  Single.clamp (wet + (bend + drift * degrees) * wet * wet) 0 100

/-- Percent by which a gas range of the low-range part is off, in its offset. -/
def rangeOffset : Vector Float32 16 :=
  #v[0, 0, 0, 0, 0, -1, 0, -0.8, 0, 0, -0.2, -0.5, 0, -1, 0, 0]

/-- Percent by which a gas range of the low-range part is off, in its gain. -/
def rangeGain : Vector Float32 16 :=
  #v[0, 0, 0, 0, 0.1, 0.7, 0, -0.8, -0.1, 0, 0, 0, 0, 0, 0, 0]

/-- Ohms of the low-range part, whose gas ranges are off by what the two tables say. -/
def gasResistanceLow (c : Calibration) (adc : UInt16) (range : UInt8) : Float32 :=
  let index := range.toNat % 16
  let base := 1340 + 5 * byte c.rangeError
  let offset := base * (1 + rangeOffset[index] / 100)
  let gain := 1 + rangeGain[index] / 100
  let scale := ((1 : UInt32) <<< UInt32.ofNat index).toFloat32
  1 / (gain * 0.000000125 * scale * ((unsigned adc - 512) / offset + 1))

/-- Ohms of the high-range part, where the gas range only shifts the scale. -/
def gasResistanceHigh (adc : UInt16) (range : UInt8) : Float32 :=
  let full := ((262144 : UInt32) >>> (range &&& 0x0F).toUInt32).toFloat32
  let scale := Float32.ofInt (((adc.toNat : Int) - 512) * 3 + 4096)
  1000000 * full / scale

/-- Set-points above this many degrees are clamped to it before anything is computed from them. -/
def maxHeaterTemperature : UInt16 := 400

/-- Register value for a heater set-point of this part at this ambient temperature, saturating at
the ends of the byte. -/
def heaterResistance (c : Calibration) (target : UInt16) (ambient : Int8) : UInt8 :=
  let target := unsigned (min target maxHeaterTemperature)
  let base := byte c.gh1 / 16 + 49
  let slope := word c.gh2 / 32768 * 0.0005 + 0.00235
  let drift := byte c.gh3 / 1024
  let hot := base * (1 + slope * target)
  let resistance := hot + drift * byte ambient
  (3.4 * (resistance * (4 / (4 + c.heatRange.toUInt32.toFloat32)) *
    (1 / (1 + byte c.heatValue * 0.002)) - 25)).toUInt8

end Calibration

end AirStation.Bme68x
