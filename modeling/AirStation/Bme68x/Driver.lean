import AirStation.Bme68x.Configuration
import AirStation.Bus.Device
import AirStation.Sensor.Event

/-!
The BME68x driver. A cycle is one mode write, one wait for the measurement time that follows from
the settings, and one burst read of the fields; the last field that carries the required status bits
becomes the reading.

A poll never waits: it looks at the clock, does what is due, and returns. Only a set-up pauses, for
the device to come out of its reset. Any failure gives the cycle up until the next interval and
leaves the latest reading alone.
-/

namespace AirStation.Bme68x

/-- The usual address of a BME68x. A configuration may have another. -/
def standardAddress : UInt8 := 0x76

def softResetMillis : Nat := 10

/-- What a conversion is for. The BME68x measures everything at once. -/
inductive Stage where
  | measurement
deriving DecidableEq, Repr

/-- The settings of a BME68x, what has been learnt about the part, and where its cycle stands.
Variant and calibration mean nothing until a set-up has succeeded. -/
structure Driver where
  address : UInt8
  settings : Settings
  variant : Variant
  calibration : Calibration
  phase : Phase Stage
  timer : PollTimer
  latest : Option Reading

namespace Driver

def create (address : UInt8) (interval : Micros) (settings : Settings) : Driver :=
  ⟨address, settings, .gasLow, .zero, .idle, .ofInterval interval, none⟩

def failure (operation : String) (fault : Fault) : SensorError :=
  .bus Sensor.bme68x.name operation fault

/-- Resets the device and asks which part it is. A device with another chip id is refused. -/
def identify (address : UInt8) : SetupM Variant := do
  attempt (failure "soft reset")
    (Device.writeRegister address Register.softReset softResetCommand)
  settle softResetMillis
  let found ← attempt (failure "read chip id") (Device.readByte address Register.chipId)
  if found ≠ chipId then
    throw (.unexpectedChipId Sensor.bme68x.name chipId found)
  let id ← attempt (failure "read variant id") (Device.readByte address Register.variantId)
  return .ofId id

/-- Reads the coefficients in three blocks: measurement, more measurement, heater. They are decoded
together once all of them are there. -/
def readCalibration (address : UInt8) : SetupM Calibration := do
  let read (register : UInt8) (count : Nat) : SetupM (Vector UInt8 count) :=
    attempt (failure "read calibration") (Device.readRegister address register count)
  let first ← read 0x8A 23
  let second ← read 0xE1 14
  let third ← read 0x00 5
  return .ofCoefficients (first ++ second ++ third)

def writeAll (address : UInt8) : List RegisterWrite → SetupM Unit
  | [] => return ()
  | w :: rest => do
    attempt (failure "write configuration")
      (Device.writeRegister address w.register w.value)
    writeAll address rest

/-- Sets the device up. What was learnt about the part is kept even when a later step fails. -/
def init (d : Driver) (now : Micros) : SensorM (Except SensorError Unit × Driver) := do
  match ← (identify d.address).run with
  | .error error => return (.error error, d)
  | .ok variant =>
    let d := { d with variant }
    match ← (readCalibration d.address).run with
    | .error error => return (.error error, d)
    | .ok calibration =>
      let d := { d with calibration }
      match ← (writeAll d.address (configuration d.settings variant calibration)).run with
      | .error error => return (.error error, d)
      | .ok () =>
        BusM.log (.bme68xReady variant d.settings.mode d.settings.conversionTime)
        return (.ok (), { d with timer := d.timer.beginCycle now
                                 phase := .waitingForInterval })

/-- Gives the cycle up until the next interval and says why. What was measured before is kept. -/
def abandon (d : Driver) (error : SensorError) : SensorM Driver := do
  BusM.log (.cycleAbandoned .bme68x error)
  return { d with phase := .waitingForInterval }

/-- Writes the measurement mode, which starts a measurement. The conversion time counts from
here. -/
def trigger (d : Driver) : SensorM Driver := do
  match ← Device.writeRegister d.address Register.measurementControl
      (d.settings.measurementControl d.settings.mode.bits) with
  | .error fault => d.abandon (failure "trigger measurement" fault)
  | .ok () => return { d with phase := .waitingForConversion .measurement }

/-- The last acceptable field, in slot order, is the newest, and it is compensated with what is
known of the part. -/
def newest? (d : Driver) (fields : List RawField) : Option Reading :=
  (fields.filter (·.has d.settings.requiredMask)).getLast?.map
    (compensate d.settings d.variant d.calibration)

/-- A report for each field that lacks one of the required bits, with the status it has. -/
def skipped (d : Driver) (fields : List RawField) : List Event :=
  (fields.filter (!·.has d.settings.requiredMask)).map (.fieldSkipped ·.status)

/-- Stores the newest reading, if there is one, and ends the cycle in any case. -/
def accept (d : Driver) (fields : List RawField) (now : Micros) : SensorM Driver := do
  BusM.logAll (d.skipped fields)
  match d.newest? fields with
  | none =>
    BusM.log (.nothingNew .bme68x)
    return { d with phase := .waitingForInterval }
  | some reading =>
    BusM.log (.bme68xMeasured reading)
    return { d with phase := .waitingForInterval
                    timer := d.timer.recordSuccess now
                    latest := some reading }

/-- Reads the fields of all slots that the mode uses in one burst. -/
def collect (d : Driver) (now : Micros) : SensorM Driver := do
  match ← Device.readRegister d.address Register.fields
      (fieldLength * d.settings.mode.fieldCount) with
  | .error fault => d.abandon (failure "read fields" fault)
  | .ok bytes => d.accept (burstFields bytes d.variant) now

/-- One step of the cycle, which does what is due at this time. It never waits, and an idle driver
does nothing. -/
def update (d : Driver) (now : Micros) : SensorM Driver := do
  match d.phase with
  | .idle => return d
  | .waitingForInterval =>
    if d.timer.intervalElapsed now then trigger { d with timer := d.timer.beginCycle now }
    else return d
  | .waitingForConversion _ =>
    if d.timer.waited now d.settings.conversionTime then d.collect now else return d

end Driver

end AirStation.Bme68x
