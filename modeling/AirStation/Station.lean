import AirStation.Baseline
import AirStation.Bme68x.Driver
import AirStation.Ccs811.Driver
import AirStation.Config
import AirStation.Htu21d.Driver
import AirStation.Snapshot

/-!
The station: one driver for each enabled sensor, polled one after another over a single bus. It
hands each fresh HTU21D reading to the CCS811, which compensates with it, and derives the air
quality from the BME68x. A sensor that is not enabled has no driver and is never addressed.

The sensors do not know of one another. A failure of one is reported and otherwise left to that
sensor, and the poll goes on with the next. Calls come from outside and carry the time.
-/

namespace AirStation

/-- The drivers of a station, and what it needs to hand the climate over. -/
structure Station where
  htu21d : Option Htu21d.Driver
  ccs811 : Option Ccs811.Driver
  bme68x : Option Bme68x.Driver
  environmentCompensation : Bool
  /-- When the reading that was handed over last had been measured. -/
  compensatedFrom : Option Micros
  tuning : AirQuality.Tuning

namespace Station

/-- A new station for a configuration, with a driver for each sensor that is used and none of them
set up. -/
def ofConfig (c : Config) : Station where
  htu21d := if c.htu21d.enabled then some (.ofInterval c.htu21d.interval) else none
  ccs811 :=
    if c.ccs811.enabled then some (.create c.ccs811.address c.ccs811.interval c.ccs811.mode)
    else none
  bme68x :=
    if c.bme68x.enabled then some (.create c.bme68x.address c.bme68x.interval c.bme68x.settings)
    else none
  environmentCompensation := c.ccs811.environmentCompensation
  compensatedFrom := none
  tuning := c.tuning

/-- Sets up a sensor, if there is one, and reports its failure. -/
def initSensor {σ : Type} (init : σ → SensorM (Except SensorError Unit × σ)) :
    Option σ → SensorM (Option SensorError × Option σ)
  | none => return (none, none)
  | some sensor => do
    match ← init sensor with
    | (.ok (), sensor) => return (none, some sensor)
    | (.error error, sensor) =>
      BusM.log (.initFailed error)
      return (some error, some sensor)

/-- Sets up every sensor, whatever happened to the ones before it. The first failure is the
result. -/
def init (s : Station) (now : Micros) : SensorM (Except SensorError Unit × Station) := do
  let (htuError, htu21d) ← initSensor (·.init now) s.htu21d
  let (ccsError, ccs811) ← initSensor (·.init now) s.ccs811
  let (bmeError, bme68x) ← initSensor (·.init now) s.bme68x
  let s := { s with htu21d, ccs811, bme68x }
  match htuError <|> ccsError <|> bmeError with
  | some error => return (.error error, s)
  | none =>
    BusM.log .allReady
    return (.ok (), s)

def updateSensor {σ : Type} (update : σ → SensorM σ) : Option σ → SensorM (Option σ)
  | none => return none
  | some sensor => some <$> update sensor

/-- Hands a fresh HTU21D reading to the CCS811, once for each reading. Readings are told apart by
when they were measured. -/
def feedEnvironment (s : Station) : Station :=
  match s.environmentCompensation, s.htu21d, s.ccs811 with
  | true, some htu, some ccs =>
    match htu.latest, htu.timer.lastSuccess with
    | some reading, some measured =>
      if s.compensatedFrom = some measured then s
      else
        { s with ccs811 := some (ccs.setEnvironment reading.temperature reading.humidity)
                 compensatedFrom := some measured }
    | _, _ => s
  | _, _, _ => s

/-- Steps every sensor once, the HTU21D before the CCS811, so that a fresh climate is told in the
same poll. -/
def poll (s : Station) (now : Micros) : SensorM Station := do
  let htu21d ← updateSensor (·.update now) s.htu21d
  let s := feedEnvironment { s with htu21d }
  let ccs811 ← updateSensor (·.update now) s.ccs811
  let bme68x ← updateSensor (·.update now) s.bme68x
  return { s with ccs811, bme68x }

/-- The air quality of the latest reading. Only one with a valid gas measurement says anything about
the air. -/
def airQuality (s : Station) : Option AirQuality := do
  let reading ← (← s.bme68x).latest
  if reading.gasValid then
    some (.assess s.tuning reading.gasResistance (Single.truncate reading.humidity))
  else none

def snapshot (s : Station) : Snapshot where
  htu21d := s.htu21d.bind (·.latest)
  ccs811 := s.ccs811.bind (·.latest)
  bme68x := s.bme68x.bind (·.latest)
  airQuality := s.airQuality

def sample (s : Station) : Sample :=
  s.snapshot.toSample

/-- The baseline of the CCS811, ready to be saved; none without the sensor. -/
def baseline (s : Station) :
    SensorM (Except SensorError (Option BaselineRecord) × Station) := do
  match s.ccs811 with
  | none => return (.ok none, s)
  | some ccs =>
    let (result, ccs) ← ccs.readBaseline
    return (result.map (some ∘ .ofBaseline), { s with ccs811 := some ccs })

/-- Writes a saved baseline back, if there is a CCS811 to take it. -/
def restoreBaseline (s : Station) (record : BaselineRecord) :
    SensorM (Except SensorError Unit × Station) := do
  match s.ccs811 with
  | none => return (.ok (), s)
  | some ccs =>
    let (result, ccs) ← ccs.writeBaseline record.baseline
    return (result, { s with ccs811 := some ccs })

end Station

end AirStation
