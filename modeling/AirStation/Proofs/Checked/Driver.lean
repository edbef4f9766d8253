import AirStation.Bme68x.Driver
import AirStation.Proofs.Checked.Configuration
import AirStation.Proofs.Checked.Field

/-!
The BME68x driver with every operation checked. It does the same on every bus: the checks add
nothing to the traffic, and none of them ends a step.

What the driver checks on its own is little, a slice of its buffer and the time of a conversion. The
rest belongs to the configuration and the fields, and each step of the driver uses their equations
where the model uses the plain functions.
-/

namespace AirStation.Bme68x.Checked

open AirStation.Checked CheckedM

variable (d : Driver) (now : Micros)

/-- Setting up, with the list of writes checked before any of them is sent. -/
def init : CheckedM (Except SensorError Unit × Driver) := do
  match ← perform (Driver.identify d.address).run with
  | .error error => return (.error error, d)
  | .ok variant =>
    let d := { d with variant }
    match ← perform (Driver.readCalibration d.address).run with
    | .error error => return (.error error, d)
    | .ok calibration =>
      let d := { d with calibration }
      let writes ← check (configuration d.settings variant calibration)
      match ← perform (Driver.writeAll d.address writes).run with
      | .error error => return (.error error, d)
      | .ok () =>
        let conversion ← check (conversionTime d.settings)
        perform (BusM.log (.bme68xReady variant d.settings.mode conversion))
        return (.ok (), { d with timer := d.timer.beginCycle now
                                 phase := .waitingForInterval })

theorem init_eq : init d now = perform (d.init now) := by
  unfold init Driver.init
  rw [perform_bind]
  refine bind_congr fun identified => ?_
  cases identified with
  | error error => rfl
  | ok variant =>
    dsimp only
    rw [perform_bind]
    refine bind_congr fun read => ?_
    cases read with
    | error error => rfl
    | ok calibration =>
      dsimp only
      rw [perform_bind, configuration_eq, check_ok, pure_bind]
      refine bind_congr fun written => ?_
      cases written with
      | error error => rfl
      | ok _ =>
        dsimp only
        rw [conversionTime_eq, check_ok, pure_bind, perform_bind]
        rfl

/-- Every acceptable field is compensated, also those that are not the last, and the last reading
counts. -/
def newest? (fields : List RawField) : Checked (Option Reading) := do
  let acceptable := fields.filter (·.has d.settings.requiredMask)
  let readings ← acceptable.mapM (compensate d.settings d.variant d.calibration)
  return readings.getLast?

theorem newest?_eq (fields : List RawField) : newest? d fields = .ok (d.newest? fields) := by
  unfold newest? Driver.newest?
  dsimp only
  rw [mapM_eq_ok fun f _ => compensate_eq d.settings d.variant d.calibration f, ok_bind,
    List.getLast?_map]
  rfl

/-- The last of the readings is kept; without one the cycle ends as it is. -/
def accept (fields : List RawField) : CheckedM Driver := do
  perform (BusM.logAll (d.skipped fields))
  match ← check (newest? d fields) with
  | none =>
    perform (BusM.log (.nothingNew .bme68x))
    return { d with phase := .waitingForInterval }
  | some reading =>
    perform (BusM.log (.bme68xMeasured reading))
    return { d with phase := .waitingForInterval
                    timer := d.timer.recordSuccess now
                    latest := some reading }

theorem accept_eq (fields : List RawField) :
    accept d now fields = perform (d.accept fields now) := by
  unfold accept Driver.accept
  rw [perform_bind, newest?_eq, check_ok, pure_bind]
  refine bind_congr fun _ => ?_
  cases d.newest? fields with
  | none => dsimp only; rw [perform_bind]; rfl
  | some reading => dsimp only; rw [perform_bind]; rfl

/-- The bytes of a burst go to the front of a buffer for as many fields as the device has, so the
burst must not be longer. -/
def collect : CheckedM Driver := do
  let _ ← check (slice (List.replicate (fieldLength * 3) (0 : UInt8)) 0
    (fieldLength * d.settings.mode.fieldCount))
  match ← perform (Device.readRegister d.address Register.fields
      (fieldLength * d.settings.mode.fieldCount)) with
  | .error fault => perform (d.abandon (Driver.failure "read fields" fault))
  | .ok bytes =>
    let fields ← check (burstFields bytes.toList d.settings.mode.fieldCount d.variant)
    accept d now fields

theorem fieldCount_le (mode : Mode) : mode.fieldCount ≤ 3 := by
  cases mode <;> decide

theorem collect_eq : collect d now = perform (d.collect now) := by
  have hcount := fieldCount_le d.settings.mode
  have hroom : 0 + fieldLength * d.settings.mode.fieldCount ≤
      (List.replicate (fieldLength * 3) (0 : UInt8)).length := by
    rw [List.length_replicate, Nat.zero_add]
    exact Nat.mul_le_mul_left _ hcount
  unfold collect Driver.collect
  rw [slice_of_le hroom, check_ok, pure_bind, perform_bind]
  refine bind_congr fun response => ?_
  cases response with
  | error fault => rfl
  | ok bytes =>
    dsimp only
    rw [burstFields_eq, check_ok, pure_bind, accept_eq]

/-- The conversion time is checked before it is compared with the time since the trigger. -/
def update : CheckedM Driver := do
  match d.phase with
  | .idle => return d
  | .waitingForInterval =>
    if d.timer.intervalElapsed now then
      perform (Driver.trigger { d with timer := d.timer.beginCycle now })
    else return d
  | .waitingForConversion _ =>
    let conversion ← check (conversionTime d.settings)
    if d.timer.waited now conversion then collect d now else return d

theorem update_eq : update d now = perform (d.update now) := by
  unfold update Driver.update
  cases d.phase with
  | idle => rfl
  | waitingForInterval =>
    dsimp only
    split <;> rfl
  | waitingForConversion stage =>
    dsimp only
    rw [conversionTime_eq, check_ok, pure_bind, collect_eq]
    split <;> rfl

end AirStation.Bme68x.Checked
