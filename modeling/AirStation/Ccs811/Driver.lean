import AirStation.Bus.Device
import AirStation.Sensor.Event

/-!
The CCS811 driver. A cycle tells the device the climate, if it changed, selects the result register,
and reads the result on the next poll. Reading or writing the baseline moves the register pointer,
so it gives up a cycle under way.

The driver keeps no copy of the pointer. It selects the result register right before it begins to
wait for a result, and the bare read that brings the result relies on nothing else having moved the
pointer since.
-/

namespace AirStation.Ccs811

def standardAddress : UInt8 := 0x5A

def hardwareId : UInt8 := 0x81

def startMillis : Nat := 1

namespace Register

def measurementMode : UInt8 := 0x01
def result : UInt8 := 0x02
def environment : UInt8 := 0x05
def baseline : UInt8 := 0x11
def hardwareId : UInt8 := 0x20
def startApplication : UInt8 := 0xF4

end Register

/-- Where a CCS811 is and how it measures, what it has still to be told, and where its cycle
stands. -/
structure Driver where
  address : UInt8
  mode : DriveMode
  phase : Phase Stage
  timer : PollTimer
  /-- Climate that the device has not acknowledged yet. -/
  pendingEnvironment : Option (Vector UInt8 4)
  latest : Option Reading

namespace Driver

def create (address : UInt8) (interval : Micros) (mode : DriveMode) : Driver :=
  ⟨address, mode, .idle, .ofInterval interval, none, none⟩

def failure (operation : String) (fault : Fault) : SensorError :=
  .bus Sensor.ccs811.name operation fault

/-- Checks the hardware id, starts the application and sets the drive mode. The first of these that
fails ends the set-up, and the driver stays as it was. -/
def start (d : Driver) : SetupM Unit := do
  let found ← attempt (failure "read hardware id")
    (Device.readByte d.address Register.hardwareId)
  if found ≠ hardwareId then
    throw (.unexpectedChipId Sensor.ccs811.name hardwareId found)
  attempt (failure "start application") (Device.write d.address [Register.startApplication])
  settle startMillis
  attempt (failure "set measurement mode")
    (Device.writeRegister d.address Register.measurementMode d.mode.register)

/-- Sets the device up. Only a success moves the phase, so a driver that was running goes on after a
failure. -/
def init (d : Driver) (now : Micros) : SensorM (Except SensorError Unit × Driver) := do
  match ← d.start.run with
  | .error error => return (.error error, d)
  | .ok () =>
    BusM.log (.ccs811Ready d.mode)
    return (.ok (), { d with timer := d.timer.beginCycle now, phase := .waitingForInterval })

/-- Keeps the climate for the next trigger, in place of an older one. -/
def setEnvironment (d : Driver) (temperature humidity : Float32) : Driver :=
  { d with pendingEnvironment := some (environmentBytes temperature humidity) }

/-- Gives the cycle up until the next interval, and says why. -/
def abandon (d : Driver) (error : SensorError) : SensorM Driver := do
  BusM.log (.cycleAbandoned .ccs811 error)
  return { d with phase := .waitingForInterval }

/-- Points the device at its result. The conversion counts from here. -/
def select (d : Driver) (now : Micros) : SensorM Driver := do
  match ← Device.write d.address [Register.result] with
  | .error fault => d.abandon (failure "select result register" fault)
  | .ok () =>
    return { d with timer := d.timer.enterState now
                    phase := .waitingForConversion .algorithmResult }

/-- The climate counts as told once its own write is acknowledged, whatever becomes of the
select. -/
def trigger (d : Driver) (now : Micros) : SensorM Driver := do
  match d.pendingEnvironment with
  | none => d.select now
  | some environment =>
    match ← Device.writeBlock d.address Register.environment environment.toList with
    | .error fault => d.abandon (failure "write environment data" fault)
    | .ok () => select { d with pendingEnvironment := none } now

/-- The status byte says whether there is an error or a result; without either there is nothing
new. -/
def interpret (bytes : Vector UInt8 8) : Except SensorError (Option Reading) :=
  if bytes[4] &&& 0x01 ≠ 0 then .error (.device Sensor.ccs811.name bytes[5])
  else if bytes[4] &&& 0x08 = 0 then .ok none
  else .ok (some ⟨Word.ofBytes bytes[0] bytes[1], Word.ofBytes bytes[2] bytes[3]⟩)

def readResult (d : Driver) : SensorM (Except SensorError (Option Reading)) := do
  match ← Device.read d.address 8 with
  | .error fault => return .error (failure "read algorithm result" fault)
  | .ok bytes => return interpret bytes

/-- Reads the result, and ends the cycle whether or not there is one. -/
def collect (d : Driver) (now : Micros) : SensorM Driver := do
  match ← d.readResult with
  | .error error => d.abandon error
  | .ok none =>
    BusM.log (.nothingNew .ccs811)
    return { d with phase := .waitingForInterval }
  | .ok (some reading) =>
    BusM.log (.ccs811Measured reading)
    return { d with phase := .waitingForInterval
                    timer := d.timer.recordSuccess now
                    latest := some reading }

/-- One step of the cycle, which does what is due at this time. It never waits. -/
def update (d : Driver) (now : Micros) : SensorM Driver := do
  match d.phase with
  | .idle => return d
  | .waitingForInterval =>
    if d.timer.intervalElapsed now then trigger { d with timer := d.timer.beginCycle now } now
    else return d
  | .waitingForConversion _ =>
    if d.timer.waited now resultWait then d.collect now else return d

/-- A conversion under way is given up, since the pointer is about to move. -/
def interrupt (d : Driver) : SensorM Driver := do
  match d.phase with
  | .waitingForConversion _ =>
    BusM.log .cycleInterrupted
    return { d with phase := .waitingForInterval }
  | _ => return d

/-- Asks the device for its baseline. A driver that was never set up refuses, and a conversion under
way is given up. -/
def readBaseline (d : Driver) : SensorM (Except SensorError UInt16 × Driver) := do
  match d.phase with
  | .idle => return (.error (.notInitialized Sensor.ccs811.name), d)
  | _ =>
    let d ← d.interrupt
    match ← Device.readRegister d.address Register.baseline 2 with
    | .error fault => return (.error (failure "read baseline" fault), d)
    | .ok bytes => return (.ok (Word.ofBytes bytes[0] bytes[1]), d)

/-- Gives the device a baseline that it had before. A driver that was never set up refuses, and a
conversion under way is given up. -/
def writeBaseline (d : Driver) (baseline : UInt16) :
    SensorM (Except SensorError Unit × Driver) := do
  match d.phase with
  | .idle => return (.error (.notInitialized Sensor.ccs811.name), d)
  | _ =>
    let d ← d.interrupt
    match ← Device.writeBlock d.address Register.baseline (Word.bigEndian baseline) with
    | .error fault => return (.error (failure "write baseline" fault), d)
    | .ok () =>
      BusM.log (.baselineRestored baseline)
      return (.ok (), d)

end Driver

end AirStation.Ccs811
