import AirStation.Bus.Device
import AirStation.Sensor.Event

/-!
The HTU21D driver. A cycle measures temperature, then humidity, and stores a reading only when both
halves arrived intact; any failure gives the cycle up until the next interval.

The first half is kept in the driver while the second is measured, and it goes when the cycle does.
So a reading never pairs the halves of two cycles. The latest reading stays what it was until a
whole new one takes its place.
-/

namespace AirStation.Htu21d

def address : UInt8 := 0x40

def softReset : UInt8 := 0xFE

def softResetMillis : Nat := 15

/-- Where the cycle stands, the half that has been measured, and the latest whole reading. -/
structure Driver where
  phase : Phase Stage
  timer : PollTimer
  /-- The first half of the reading under way. -/
  pendingTemperature : Option Float32
  latest : Option Reading

namespace Driver

def ofInterval (interval : Micros) : Driver :=
  ⟨.idle, .ofInterval interval, none, none⟩

def failure (operation : String) (fault : Fault) : SensorError :=
  .bus Sensor.htu21d.name operation fault

/-- Resets the sensor. The first measurement starts one interval after `now`. -/
def init (d : Driver) (now : Micros) : SensorM (Except SensorError Unit × Driver) := do
  match ← Device.write address [softReset] with
  | .error fault => return (.error (failure "soft reset" fault), d)
  | .ok () =>
    BusM.wait softResetMillis
    BusM.log (.htu21dReady d.timer.interval)
    return (.ok (), { d with timer := d.timer.beginCycle now, phase := .waitingForInterval })

/-- Gives the cycle up until the next interval, with the half that was measured, and says why. -/
def abandon (d : Driver) (error : SensorError) : SensorM Driver := do
  BusM.log (.cycleAbandoned .htu21d error)
  return { d with pendingTemperature := none, phase := .waitingForInterval }

/-- Asks for one half. Its conversion time counts from the acknowledged command. -/
def trigger (d : Driver) (stage : Stage) (now : Micros) : SensorM Driver := do
  match ← Device.write address [stage.command] with
  | .error fault => d.abandon (failure stage.triggerOperation fault)
  | .ok () =>
    BusM.log (.conversionStarted stage)
    return { d with timer := d.timer.enterState now, phase := .waitingForConversion stage }

/-- The raw word of an answer, if its checksum holds. -/
def checked (stage : Stage) (bytes : Vector UInt8 3) : Except SensorError UInt16 :=
  if crc8 [bytes[0], bytes[1]] = bytes[2] then .ok (Word.ofBytes bytes[0] bytes[1])
  else .error (.checksum Sensor.htu21d.name stage.readOperation)

/-- Reads an answer with its checksum. A fault of the bus and a wrong checksum are errors of the
same step. -/
def readStage (stage : Stage) : SensorM (Except SensorError UInt16) := do
  match ← Device.read address 3 with
  | .error fault => return .error (failure stage.readOperation fault)
  | .ok bytes => return checked stage bytes

/-- Pairs the humidity with the temperature of the same cycle, and stores the reading. -/
def complete (d : Driver) (humidity : Float32) (now : Micros) : SensorM Driver := do
  match d.pendingTemperature with
  | none => return { d with phase := .waitingForInterval }
  | some temperature =>
    let reading : Reading := ⟨temperature, humidity⟩
    BusM.log (.htu21dMeasured reading)
    return { phase := .waitingForInterval
             timer := d.timer.recordSuccess now
             pendingTemperature := none
             latest := some reading }

/-- Reads the half that was asked for. After the temperature the humidity is asked for at once. -/
def collect (d : Driver) (stage : Stage) (now : Micros) : SensorM Driver := do
  match ← readStage stage with
  | .error error => d.abandon error
  | .ok raw =>
    match stage with
    | .temperature =>
      trigger { d with pendingTemperature := some (temperatureOfRaw raw) } .humidity now
    | .humidity => d.complete (humidityOfRaw raw) now

/-- One step of the cycle, which does what is due at this time. It never waits. -/
def update (d : Driver) (now : Micros) : SensorM Driver := do
  match d.phase with
  | .idle => return d
  | .waitingForInterval =>
    if d.timer.intervalElapsed now then
      trigger { d with timer := d.timer.beginCycle now, pendingTemperature := none }
        .temperature now
    else return d
  | .waitingForConversion stage =>
    if d.timer.waited now stage.conversionTime then d.collect stage now else return d

end Driver

end AirStation.Htu21d
