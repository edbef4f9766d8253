import AirStation.Proofs.Checked.Driver
import AirStation.Proofs.Checked.Sample
import AirStation.Station

/-!
The station with every operation checked. The BME68x is the only one of its sensors that computes
while it is set up and read; the other two only take bytes from fixed places, so their drivers are
used as they are.

Besides the drivers there are the intervals, which become microseconds when the station is made, and
the snapshot and the sample, which are computed from what the drivers remember. Each function has
its equation, and a session needs no more than those.
-/

namespace AirStation.Station.Checked

open AirStation.Checked CheckedM

/-- The driver of a sensor that is used, and nothing for one that is not. -/
def enabledDriver {σ : Type} (enabled : Bool) (driver : Checked σ) : Checked (Option σ) :=
  if enabled then some <$> driver else return none

theorem enabledDriver_eq {σ : Type} (enabled : Bool) {driver : Checked σ} {d : σ}
    (h : driver = .ok d) :
    enabledDriver enabled driver = .ok (if enabled then some d else none) := by
  cases enabled with
  | false => rfl
  | true => rw [enabledDriver, h]; rfl

def htu21dDriver (c : Htu21dConfig) : Checked Htu21d.Driver := do
  let interval ← ofMillis c.intervalMillis.toNat
  return .ofInterval interval

def ccs811Driver (c : Ccs811Config) : Checked Ccs811.Driver := do
  let interval ← ofMillis c.intervalMillis.toNat
  return .create c.address interval c.mode

/-- The conversion time follows from the settings, once and for all, so it is checked when the
driver is made. -/
def bme68xDriver (c : Bme68xConfig) : Checked Bme68x.Driver := do
  let interval ← ofMillis c.intervalMillis.toNat
  let _ ← Bme68x.Checked.conversionTime c.settings
  return .create c.address interval c.settings

def ofConfig (c : Config) : Checked Station := do
  let htu21d ← enabledDriver c.htu21d.enabled (htu21dDriver c.htu21d)
  let ccs811 ← enabledDriver c.ccs811.enabled (ccs811Driver c.ccs811)
  let bme68x ← enabledDriver c.bme68x.enabled (bme68xDriver c.bme68x)
  return {
    htu21d, ccs811, bme68x
    environmentCompensation := c.ccs811.environmentCompensation
    compensatedFrom := none
    tuning := c.tuning }

theorem interval_eq (milliseconds : UInt32) :
    ofMillis milliseconds.toNat = .ok (.ofMillis milliseconds.toNat) :=
  ofMillis_eq milliseconds.toNat_lt

theorem htu21dDriver_eq (c : Htu21dConfig) : htu21dDriver c = .ok (.ofInterval c.interval) := by
  rw [htu21dDriver, interval_eq, ok_bind]
  rfl

theorem ccs811Driver_eq (c : Ccs811Config) :
    ccs811Driver c = .ok (.create c.address c.interval c.mode) := by
  rw [ccs811Driver, interval_eq, ok_bind]
  rfl

theorem bme68xDriver_eq (c : Bme68xConfig) :
    bme68xDriver c = .ok (.create c.address c.interval c.settings) := by
  rw [bme68xDriver, interval_eq, ok_bind, Bme68x.Checked.conversionTime_eq, ok_bind]
  rfl

theorem ofConfig_eq (c : Config) : ofConfig c = .ok (Station.ofConfig c) := by
  rw [ofConfig, enabledDriver_eq _ (htu21dDriver_eq _), ok_bind,
    enabledDriver_eq _ (ccs811Driver_eq _), ok_bind,
    enabledDriver_eq _ (bme68xDriver_eq _), ok_bind]
  rfl

section Sensors

variable {σ : Type}

def initSensor (init : σ → CheckedM (Except SensorError Unit × σ)) :
    Option σ → CheckedM (Option SensorError × Option σ)
  | none => return (none, none)
  | some sensor => do
    match ← init sensor with
    | (.ok (), sensor) => return (none, some sensor)
    | (.error error, sensor) =>
      perform (BusM.log (.initFailed error))
      return (some error, some sensor)

theorem initSensor_eq {init : σ → CheckedM (Except SensorError Unit × σ)}
    {plain : σ → SensorM (Except SensorError Unit × σ)} (h : ∀ d, init d = perform (plain d))
    (sensor : Option σ) :
    initSensor init sensor = perform (Station.initSensor plain sensor) := by
  cases sensor with
  | none => rfl
  | some d =>
    unfold initSensor Station.initSensor
    dsimp only
    rw [h, perform_bind]
    refine bind_congr fun outcome => ?_
    obtain ⟨result, d'⟩ := outcome
    cases result with
    | error error => dsimp only; rw [perform_bind]; rfl
    | ok _ => rfl

def updateSensor (update : σ → CheckedM σ) : Option σ → CheckedM (Option σ)
  | none => return none
  | some sensor => some <$> update sensor

theorem updateSensor_eq {update : σ → CheckedM σ} {plain : σ → SensorM σ}
    (h : ∀ d, update d = perform (plain d)) (sensor : Option σ) :
    updateSensor update sensor = perform (Station.updateSensor plain sensor) := by
  cases sensor with
  | none => rfl
  | some d =>
    unfold updateSensor Station.updateSensor
    dsimp only
    rw [h, perform_map]

end Sensors

variable (s : Station) (now : Micros)

/-- Every sensor is set up, and the first error is the answer. -/
def init : CheckedM (Except SensorError Unit × Station) := do
  let (htuError, htu21d) ← initSensor (fun d => perform (d.init now)) s.htu21d
  let (ccsError, ccs811) ← initSensor (fun d => perform (d.init now)) s.ccs811
  let (bmeError, bme68x) ← initSensor (Bme68x.Checked.init · now) s.bme68x
  let s := { s with htu21d, ccs811, bme68x }
  match htuError <|> ccsError <|> bmeError with
  | some error => return (.error error, s)
  | none =>
    perform (BusM.log .allReady)
    return (.ok (), s)

theorem init_eq : init s now = perform (s.init now) := by
  unfold init Station.init
  rw [initSensor_eq fun _ => rfl, initSensor_eq fun _ => rfl,
    initSensor_eq (Bme68x.Checked.init_eq · now), perform_bind]
  refine bind_congr fun htu => ?_
  rw [perform_bind]
  refine bind_congr fun ccs => ?_
  rw [perform_bind]
  refine bind_congr fun bme => ?_
  dsimp only
  cases htu.1 <|> ccs.1 <|> bme.1 with
  | some error => rfl
  | none => dsimp only; rw [perform_bind]; rfl

/-- The sensors are updated one after another, with the climate handed over between the first
two. -/
def poll : CheckedM Station := do
  let htu21d ← updateSensor (fun d => perform (d.update now)) s.htu21d
  let s := feedEnvironment { s with htu21d }
  let ccs811 ← updateSensor (fun d => perform (d.update now)) s.ccs811
  let bme68x ← updateSensor (Bme68x.Checked.update · now) s.bme68x
  return { s with ccs811, bme68x }

theorem poll_eq : poll s now = perform (s.poll now) := by
  unfold poll Station.poll
  rw [updateSensor_eq fun _ => rfl, perform_bind]
  refine bind_congr fun htu21d => ?_
  dsimp only
  rw [updateSensor_eq fun _ => rfl, perform_bind]
  refine bind_congr fun ccs811 => ?_
  rw [updateSensor_eq (Bme68x.Checked.update_eq · now), perform_bind]
  rfl

/-- An assessment of the latest reading, if its gas measurement is valid. -/
def airQuality : Checked (Option AirQuality) :=
  match s.bme68x.bind (·.latest) with
  | none => return none
  | some reading =>
    if reading.gasValid then
      some <$> AirQuality.Checked.assess s.tuning reading.gasResistance
        (Single.truncate reading.humidity)
    else return none

theorem airQuality_eq : airQuality s = .ok s.airQuality := by
  unfold airQuality Station.airQuality
  cases s.bme68x with
  | none => rfl
  | some d =>
    simp only [Option.bind_some, Option.bind_eq_bind]
    cases d.latest with
    | none => rfl
    | some reading =>
      simp only [Option.bind_some, AirQuality.Checked.assess_eq]
      split <;> rfl

def snapshot : Checked Snapshot := do
  let airQuality ← airQuality s
  return {
    htu21d := s.htu21d.bind (·.latest)
    ccs811 := s.ccs811.bind (·.latest)
    bme68x := s.bme68x.bind (·.latest)
    airQuality }

theorem snapshot_eq : snapshot s = .ok s.snapshot := by
  rw [snapshot, airQuality_eq, ok_bind]
  rfl

def sample : Checked Sample := do
  let snapshot ← snapshot s
  Snapshot.Checked.toSample snapshot

theorem sample_eq : sample s = .ok s.sample := by
  rw [sample, snapshot_eq, ok_bind, Snapshot.Checked.toSample_eq]
  rfl

end AirStation.Station.Checked
