import AirStation.Single.Basic
import AirStation.Sensor.Timer

/-!
What the HTU21D humidity and temperature sensor measures: its two conversion stages, the checksum
over an answer, and the formulas from a raw word to degrees and relative humidity.

An answer is a word of sixteen bits and its checksum. The two low bits of the word are no part of
the measurement and are cleared before anything is computed; the formulas are evaluated in single
precision in the order in which they stand.
-/

namespace AirStation.Htu21d

/-- Degrees Celsius and percent of relative humidity, measured in the same cycle. -/
structure Reading where
  temperature : Float32
  humidity : Float32

/-- The two halves of a cycle, in the order in which they are measured. -/
inductive Stage where
  | temperature
  | humidity
deriving DecidableEq, Repr

namespace Stage

/-- Measurement without clock stretching, so the bus is free while the device converts. -/
def command : Stage → UInt8
  | .temperature => 0xF3
  | .humidity => 0xF5

/-- The longest time that a 14-bit temperature or a 12-bit humidity conversion takes. -/
def conversionTime : Stage → Micros
  | .temperature => .ofMillis 50
  | .humidity => .ofMillis 16

def name : Stage → String
  | .temperature => "Temperature"
  | .humidity => "Humidity"

def triggerOperation : Stage → String
  | .temperature => "trigger temperature measurement"
  | .humidity => "trigger humidity measurement"

def readOperation : Stage → String
  | .temperature => "read temperature"
  | .humidity => "read humidity"

end Stage

/-- One step of the division by x⁸ + x⁵ + x⁴ + 1, for a register of eight bits. -/
def crcShift (crc : UInt8) : UInt8 :=
  if crc &&& 0x80 != 0 then (crc <<< 1) ^^^ 0x31 else crc <<< 1

def crcByte (crc byte : UInt8) : UInt8 :=
  Nat.repeat crcShift 8 (crc ^^^ byte)

/-- The checksum of a message, byte after byte from a register of zero. -/
def crc8 (bytes : List UInt8) : UInt8 :=
  bytes.foldl crcByte 0

/-- The two low bits of a measurement carry status, not data. -/
def clearStatus (raw : UInt16) : UInt16 :=
  raw &&& 0xFFFC

def fraction (raw : UInt16) : Float32 :=
  (clearStatus raw).toUInt32.toFloat32 / 65536

def temperatureOfRaw (raw : UInt16) : Float32 :=
  -46.85 + 175.72 * fraction raw

/-- Raw words near the ends of the range convert to slightly less than nothing or more than
everything; both count as saturation. -/
def humidityOfRaw (raw : UInt16) : Float32 :=
  Single.clamp (-6 + 125 * fraction raw) 0 100

end AirStation.Htu21d
