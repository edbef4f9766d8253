import AirStation.Single.Basic
import AirStation.Word
import AirStation.Sensor.Timer

/-!
What the CCS811 gas sensor measures and is told: equivalent carbon dioxide and total volatile
compounds, the drive mode, and the climate it compensates with.

The climate is handed over in fixed point, with the humidity in percent first and the temperature on
a scale that starts at -25 °C. Both are rounded and kept within sixteen bits, so any reading of
another sensor can be told, even one that is no number.
-/

namespace AirStation.Ccs811

/-- Whole numbers, as the device computes them: parts per million and parts per billion. -/
structure Reading where
  eco2 : UInt16
  tvoc : UInt16
deriving DecidableEq, Repr

/-- How often the device measures, and with how much power. -/
inductive DriveMode where
  | idle
  | constantPower1s
  | pulse10s
  | lowPower60s
  | constantPower250ms
deriving DecidableEq, Repr

namespace DriveMode

def code : DriveMode → UInt8
  | .idle => 0
  | .constantPower1s => 1
  | .pulse10s => 2
  | .lowPower60s => 3
  | .constantPower250ms => 4

/-- The drive mode in bits 4 to 6 of the measurement-mode register, with no interrupts. -/
def register (mode : DriveMode) : UInt8 :=
  mode.code <<< 4

def name : DriveMode → String
  | .idle => "Idle"
  | .constantPower1s => "ConstantPower1s"
  | .pulse10s => "Pulse10s"
  | .lowPower60s => "LowPower60s"
  | .constantPower250ms => "ConstantPower250ms"

end DriveMode

/-- What a conversion is for. There is only one kind. -/
inductive Stage where
  | algorithmResult
deriving DecidableEq, Repr

/-- The result registers are latched, so nothing has to pass between selecting and reading. -/
def resultWait : Micros := 0

/-- Rounded to units of 1/512 and saturating; a NaN gives zero. -/
def toUnits (x : Float32) : UInt16 :=
  let scaled := x * 512 + 0.5
  if 65535 ≤ scaled then 65535 else scaled.toUInt16

/-- A temperature below the scale counts as its start, and so does a NaN. -/
def aboveScaleStart (temperature : Float32) : Float32 :=
  let shifted := temperature + 25
  if 0 < shifted then shifted else 0

/-- Humidity, then the temperature on a scale that starts at -25 °C, each with its higher byte
first. -/
def environmentBytes (temperature humidity : Float32) : Vector UInt8 4 :=
  let humid := toUnits (Single.clamp humidity 0 100)
  let warm := toUnits (aboveScaleStart temperature)
  #v[Word.high humid, Word.low humid, Word.high warm, Word.low warm]

end AirStation.Ccs811
