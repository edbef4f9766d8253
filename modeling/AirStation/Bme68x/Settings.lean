import AirStation.Sensor.Timer

/-!
Measurement settings of the BME68x and what follows from them alone: how long a measurement takes,
which status bits make a field acceptable, and the register codes of the enumerations.

Settings are made once and do not change while the driver runs, so the time of a conversion is known
before the first one. That a heater profile has no more than ten steps is part of its type, and no
later step has to check it.
-/

namespace AirStation.Bme68x

inductive Oversampling where
  | skip
  | x1
  | x2
  | x4
  | x8
  | x16
deriving DecidableEq, Repr

namespace Oversampling

def code : Oversampling → UInt8
  | .skip => 0
  | .x1 => 1
  | .x2 => 2
  | .x4 => 3
  | .x8 => 4
  | .x16 => 5

/-- Measurement cycles, one after another, that make one value. A quantity that is skipped takes
none. -/
def cycles : Oversampling → Nat
  | .skip => 0
  | .x1 => 1
  | .x2 => 2
  | .x4 => 4
  | .x8 => 8
  | .x16 => 16

end Oversampling

/-- Coefficient of the device's own smoothing filter, by the register codes it can have. -/
inductive Filter where
  | off
  | size1
  | size3
  | size7
  | size15
  | size31
  | size63
  | size127
deriving DecidableEq, Repr

def Filter.code : Filter → UInt8
  | .off => 0
  | .size1 => 1
  | .size3 => 2
  | .size7 => 3
  | .size15 => 4
  | .size31 => 5
  | .size63 => 6
  | .size127 => 7

/-- Forced mode measures one field for each trigger. In parallel mode the device walks through its
heater profile and keeps the last three fields. -/
inductive Mode where
  | forced
  | parallel
deriving DecidableEq, Repr

namespace Mode

def bits : Mode → UInt8
  | .forced => 1
  | .parallel => 2

def fieldCount : Mode → Nat
  | .forced => 1
  | .parallel => 3

def name : Mode → String
  | .forced => "Forced"
  | .parallel => "Parallel"

end Mode

/-- A set-point of the heater plate in degrees, and how long it is held. -/
structure HeaterStep where
  temperature : UInt16
  /-- Milliseconds in forced mode, multiples of the shared duration in parallel mode. -/
  duration : UInt16
deriving DecidableEq, Repr

/-- Longest heater profile the device accepts, since there are ten registers for the steps. -/
def maxHeaterSteps : Nat := 10

/-- The heater profile. It carries the proof that its steps fit the banks of registers. -/
structure Heater where
  enabled : Bool
  /-- Forced mode uses the first step only. -/
  steps : List HeaterStep
  /-- Used in parallel mode only, in milliseconds. -/
  sharedDuration : UInt16
  length_steps_le : steps.length ≤ maxHeaterSteps
deriving DecidableEq

/-- A heater without a step to run counts as turned off. -/
def Heater.active (h : Heater) : Bool :=
  h.enabled && !h.steps.isEmpty

def Heater.standard : Heater where
  enabled := true
  steps := [⟨320, 100⟩]
  sharedDuration := 140
  length_steps_le := by decide

/-- What is measured, and how: oversampling of each quantity, the filter, the mode and the
heater. -/
structure Settings where
  temperature : Oversampling
  pressure : Oversampling
  humidity : Oversampling
  filter : Filter
  mode : Mode
  heater : Heater
  /-- Degrees around the device, for the heater resistance. -/
  ambient : Int8
deriving DecidableEq

namespace Status

def newData : UInt8 := 0x80

def gasValid : UInt8 := 0x20

def heatStable : UInt8 := 0x10

end Status

namespace Settings

def standard : Settings where
  temperature := .x8
  pressure := .x4
  humidity := .x2
  filter := .off
  mode := .forced
  heater := .standard
  ambient := 25

/-- From the mode write until the data is in the field registers, without the heater. Nine switching
phases of 477 µs surround the cycles, and forced mode has to wake up first. -/
def measurementTime (s : Settings) : Micros :=
  let cycles := s.temperature.cycles + s.pressure.cycles + s.humidity.cycles
  let wakeUp := match s.mode with
    | .forced => 1000
    | .parallel => 0
  cycles * 1963 + 477 * 9 + wakeUp

/-- Milliseconds of heating that a measurement has to wait for. -/
def heaterMillis (s : Settings) : Nat :=
  if s.heater.active then
    match s.mode with
    | .forced => (s.heater.steps.head?.map (·.duration.toNat)).getD 0
    | .parallel => s.heater.sharedDuration.toNat
  else 0

/-- How long the driver waits after a trigger before it reads the fields. -/
def conversionTime (s : Settings) : Micros :=
  s.measurementTime + .ofMillis s.heaterMillis

/-- Status bits that a field must carry in parallel mode; those of the gas only if something is
heated. -/
def validMask (s : Settings) : UInt8 :=
  if s.heater.active then Status.newData ||| Status.gasValid ||| Status.heatStable
  else Status.newData

/-- Status bits that a field must carry to be reported. -/
def requiredMask (s : Settings) : UInt8 :=
  match s.mode with
  | .forced => Status.newData
  | .parallel => s.validMask

/-- The measurement-control register with the given mode bits below the oversampling. -/
def measurementControl (s : Settings) (modeBits : UInt8) : UInt8 :=
  (s.temperature.code <<< 5) ||| (s.pressure.code <<< 2) ||| modeBits

end Settings

/-- The two parts differ in the range of their gas sensor, and in the registers it reports in. -/
inductive Variant where
  | gasLow
  | gasHigh
deriving DecidableEq, Repr

namespace Variant

def ofId (id : UInt8) : Variant :=
  if id = 0 then .gasLow else .gasHigh

def name : Variant → String
  | .gasLow => "GasLow"
  | .gasHigh => "GasHigh"

end Variant

end AirStation.Bme68x
