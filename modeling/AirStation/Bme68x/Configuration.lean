import AirStation.Bme68x.Calibration
import AirStation.Bme68x.Heater
import AirStation.Bme68x.Settings

/-!
The register writes that set up a BME68x, as one list: the same settings, variant and trimming
always give the same writes in the same order. Oversampling and filter come first, with the mode at
sleep; then the heater profile, or the one bit that turns the heater off.

The list is computed before any of it is sent. A set-up that fails half-way therefore stops at some
place of it, and what it would have written does not depend on what has become of the writes before.
-/

namespace AirStation.Bme68x

def chipId : UInt8 := 0x61

def softResetCommand : UInt8 := 0xB6

/-- A register and the byte that is written into it. -/
structure RegisterWrite where
  register : UInt8
  value : UInt8
deriving DecidableEq, Repr

namespace Register

def fields : UInt8 := 0x1D
def heaterResistance : UInt8 := 0x5A
def gasWait : UInt8 := 0x64
def sharedWait : UInt8 := 0x6E
def gasControl0 : UInt8 := 0x70
def gasControl1 : UInt8 := 0x71
def humidityControl : UInt8 := 0x72
def measurementControl : UInt8 := 0x74
def filter : UInt8 := 0x75
def chipId : UInt8 := 0xD0
def softReset : UInt8 := 0xE0
def variantId : UInt8 := 0xF0

end Register

/-- Oversampling and filter; the device sleeps until its first trigger. -/
def measurementWrites (s : Settings) : List RegisterWrite :=
  [⟨Register.humidityControl, s.humidity.code⟩,
   ⟨Register.filter, s.filter.code <<< 2⟩,
   ⟨Register.measurementControl, s.measurementControl 0⟩]

/-- Forced mode programs one step, parallel mode the whole profile. -/
def programmedSteps (s : Settings) : List HeaterStep :=
  match s.mode with
  | .forced => s.heater.steps.take 1
  | .parallel => s.heater.steps

def stepWait (mode : Mode) (step : HeaterStep) : UInt8 :=
  match mode with
  | .forced => gasWaitCode step.duration
  | .parallel => stepMultiplier step.duration

/-- Set-point and duration of each step, in neighbouring registers from two bases. A profile of at
most ten steps stays within both banks. -/
def stepWrites (s : Settings) (c : Calibration) : List RegisterWrite :=
  (programmedSteps s).zipIdx.flatMap fun (step, i) =>
    [⟨Register.heaterResistance + UInt8.ofNat i, c.heaterResistance step.temperature s.ambient⟩,
     ⟨Register.gasWait + UInt8.ofNat i, stepWait s.mode step⟩]

def runGas : Variant → UInt8
  | .gasLow => 0x10
  | .gasHigh => 0x20

/-- Number of profile steps, which forced mode leaves at zero. -/
def stepCount (s : Settings) : UInt8 :=
  match s.mode with
  | .forced => 0
  | .parallel => UInt8.ofNat s.heater.steps.length

def sharedWrites (s : Settings) : List RegisterWrite :=
  match s.mode with
  | .forced => []
  | .parallel => [⟨Register.sharedWait, sharedWaitCode s.heater.sharedDuration⟩]

def heaterOffWrites : List RegisterWrite :=
  [⟨Register.gasControl0, 0x08⟩, ⟨Register.gasControl1, 0⟩]

def heaterOnWrites (s : Settings) (variant : Variant) (c : Calibration) : List RegisterWrite :=
  stepWrites s c ++ sharedWrites s ++
    [⟨Register.gasControl0, 0⟩,
     ⟨Register.gasControl1, runGas variant ||| (stepCount s &&& 0x0F)⟩]

/-- All writes of a set-up. Without an active heater the heater registers are not written, but the
gas measurement is turned off. -/
def configuration (s : Settings) (variant : Variant) (c : Calibration) : List RegisterWrite :=
  measurementWrites s ++
    if s.heater.active then heaterOnWrites s variant c else heaterOffWrites

end AirStation.Bme68x
