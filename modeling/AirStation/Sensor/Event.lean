import AirStation.Bus.Program
import AirStation.Single.Decimal
import AirStation.Sensor.Error
import AirStation.Htu21d.Reading
import AirStation.Ccs811.Reading
import AirStation.Bme68x.Field

/-!
What the sensors report while they work. An event is a value; its level, its source and its wording
are functions of it. So a driver says what has happened, and how much of that is shown, and where,
is decided outside.

At the end there are the two kinds of computations that a driver is made of: a step, which may do
anything on the bus, and a sequence of steps, which ends at its first error.
-/

namespace AirStation

/-- How much an event matters, from failures down to details. -/
inductive Level where
  | error
  | warn
  | info
  | debug
deriving DecidableEq, Repr

namespace Level

def text : Level → String
  | .error => "ERROR"
  | .warn => "WARN"
  | .info => "INFO"
  | .debug => "DEBUG"

/-- Zero for the most severe, and one more for each level below it. -/
def rank : Level → Nat
  | .error => 0
  | .warn => 1
  | .info => 2
  | .debug => 3

end Level

inductive Sensor where
  | htu21d
  | ccs811
  | bme68x
deriving DecidableEq, Repr

def Sensor.name : Sensor → String
  | .htu21d => "HTU21D"
  | .ccs811 => "CCS811"
  | .bme68x => "BME68x"

inductive Event where
  | htu21dReady (interval : Micros)
  | conversionStarted (stage : Htu21d.Stage)
  | htu21dMeasured (reading : Htu21d.Reading)
  | ccs811Ready (mode : Ccs811.DriveMode)
  | cycleInterrupted
  | baselineRestored (baseline : UInt16)
  | ccs811Measured (reading : Ccs811.Reading)
  | bme68xReady (variant : Bme68x.Variant) (mode : Bme68x.Mode) (conversion : Micros)
  | fieldSkipped (status : UInt8)
  | bme68xMeasured (reading : Bme68x.Reading)
  | nothingNew (sensor : Sensor)
  | cycleAbandoned (sensor : Sensor) (error : SensorError)
  | initFailed (error : SensorError)
  | allReady

namespace Event

def level : Event → Level
  | .htu21dReady _ | .ccs811Ready _ | .bme68xReady .. | .allReady => .info
  | .conversionStarted _ | .htu21dMeasured _ | .cycleInterrupted | .baselineRestored _ => .debug
  | .ccs811Measured _ | .fieldSkipped _ | .bme68xMeasured _ | .nothingNew _ => .debug
  | .cycleAbandoned .. => .warn
  | .initFailed _ => .error

/-- The sensor that speaks; none when the station as a whole does. -/
def sensor? : Event → Option Sensor
  | .htu21dReady _ | .conversionStarted _ | .htu21dMeasured _ => some .htu21d
  | .ccs811Ready _ | .cycleInterrupted | .baselineRestored _ | .ccs811Measured _ => some .ccs811
  | .bme68xReady .. | .fieldSkipped _ | .bme68xMeasured _ => some .bme68x
  | .nothingNew sensor | .cycleAbandoned sensor _ => some sensor
  | .initFailed _ | .allReady => none

def message : Event → String
  | .htu21dReady interval => s!"HTU21D: ready, polling every {interval.toMillis} ms"
  | .conversionStarted stage => s!"HTU21D: {stage.name} conversion started"
  | .htu21dMeasured r =>
    s!"HTU21D: {Single.fixed 2 r.temperature} C, {Single.fixed 2 r.humidity} %RH"
  | .ccs811Ready mode => s!"CCS811: ready, drive mode {mode.name}"
  | .cycleInterrupted => "CCS811: cycle interrupted by baseline access"
  | .baselineRestored baseline => s!"CCS811: baseline 0x{Hex.word baseline} restored"
  | .ccs811Measured r => s!"CCS811: eCO2 {r.eco2.toNat} ppm, TVOC {r.tvoc.toNat} ppb"
  | .bme68xReady variant mode conversion =>
    s!"BME68x: {variant.name} ready in {mode.name} mode, {conversion.toMillis} ms per measurement"
  | .fieldSkipped status => s!"BME68x: skipping field with status 0x{Hex.byte status}"
  | .bme68xMeasured r =>
    s!"BME68x: {Single.fixed 2 r.temperature} C, {Single.fixed 2 r.humidity} %RH, " ++
      s!"{Single.fixed 0 r.pressure} Pa, {r.gasResistance.toNat} ohm"
  | .nothingNew sensor => s!"{sensor.name}: no new data"
  | .cycleAbandoned _ error => s!"{error.message}; retrying next interval"
  | .initFailed error => s!"Sensor init failed: {error.message}"
  | .allReady => "All enabled sensors initialized"

end Event

/-- What a sensor does in one step: bus traffic, pauses and reports. -/
abbrev SensorM : Type → Type :=
  BusM Event

/-- A sequence of steps that ends at its first error. -/
abbrev SetupM : Type → Type :=
  ExceptT SensorError SensorM

/-- One step of a sequence, with the words for its failure. -/
def attempt {α : Type} (failure : Fault → SensorError) (step : SensorM (Except Fault α)) :
    SetupM α :=
  ExceptT.mk (Except.mapError failure <$> step)

/-- Gives the device time between two steps of a sequence. -/
def settle (milliseconds : Nat) : SetupM Unit :=
  ExceptT.lift (BusM.wait milliseconds)

end AirStation
