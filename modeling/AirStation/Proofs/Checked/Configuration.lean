import AirStation.Proofs.Bme68x.Steps
import AirStation.Proofs.Bme68x.WaitCode
import AirStation.Proofs.Checked.Operation

/-!
Setting up a BME68x with every operation checked. An active heater has a step to program, a profile
of at most ten steps stays within both register banks, and a duration below the cut-off needs three
divisions at most, so that its code fits a byte.

The functions are those of the model with a check at each addition, product and look-up. For each
there is an equation that says it succeeds with the value of the model. Only the encoding of a
duration can fail for some argument, and it is never called with such a one.
-/

namespace AirStation.Bme68x.Checked

open AirStation.Checked

/-- The number of measurements is looked up in a table by the code. -/
def cycles (o : Oversampling) : Checked Nat :=
  lookUp [0, 1, 2, 4, 8, 16] o.code.toNat

theorem cycles_eq (o : Oversampling) : cycles o = .ok o.cycles := by
  cases o <;> rfl

theorem total_cycles_le (s : Settings) :
    s.temperature.cycles + s.pressure.cycles + s.humidity.cycles ≤ 48 := by
  have hle (o : Oversampling) : o.cycles ≤ 16 := by cases o <;> decide
  have htemperature := hle s.temperature
  have hpressure := hle s.pressure
  have hhumidity := hle s.humidity
  omega

/-- The sums and products are made in words of 32 bits, one operation after another. -/
def measurementTime (s : Settings) : Checked Micros := do
  let temperature ← cycles s.temperature
  let pressure ← cycles s.pressure
  let humidity ← cycles s.humidity
  let total ← within 0x100000000 (temperature + pressure)
  let total ← within 0x100000000 (total + humidity)
  let busy ← within 0x100000000 (total * 1963)
  let time ← within 0x100000000 (busy + 477 * 9)
  match s.mode with
  | .forced => within 0x100000000 (time + 1000)
  | .parallel => return time

theorem measurementTime_eq (s : Settings) : measurementTime s = .ok s.measurementTime := by
  have hcycles := total_cycles_le s
  unfold measurementTime Settings.measurementTime
  rw [cycles_eq, ok_bind, cycles_eq, ok_bind, cycles_eq, ok_bind]
  rw [within_of_lt (by omega), ok_bind, within_of_lt (by omega), ok_bind,
    within_of_lt (by omega), ok_bind, within_of_lt (by omega), ok_bind]
  cases s.mode with
  | forced => rw [within_of_lt (by omega)]
  | parallel => exact congrArg Except.ok (Nat.add_zero _).symm

theorem measurementTime_lt (s : Settings) : s.measurementTime < (100000 : Nat) := by
  have hcycles := total_cycles_le s
  unfold Settings.measurementTime
  dsimp only
  generalize s.temperature.cycles + s.pressure.cycles + s.humidity.cycles = total at hcycles ⊢
  cases s.mode with
  | forced => exact (show total * 1963 + 477 * 9 + 1000 < 100000 by omega)
  | parallel => exact (show total * 1963 + 477 * 9 + 0 < 100000 by omega)

theorem heaterMillis_lt (s : Settings) : s.heaterMillis < 0x10000 := by
  unfold Settings.heaterMillis
  split
  · cases s.mode with
    | forced =>
      cases s.heater.steps.head? with
      | none => exact Nat.zero_lt_succ _
      | some step => exact step.duration.toNat_lt
    | parallel => exact s.heater.sharedDuration.toNat_lt
  · exact Nat.zero_lt_succ _

def conversionTime (s : Settings) : Checked Micros := do
  let time ← measurementTime s
  let heating ← ofMillis s.heaterMillis
  micros (time + heating)

theorem conversionTime_eq (s : Settings) : conversionTime s = .ok s.conversionTime := by
  have hmillis := heaterMillis_lt s
  have hheating : s.heaterMillis * 1000 < 0x10000 * 1000 := by omega
  unfold conversionTime
  rw [measurementTime_eq, ok_bind, ofMillis_eq (by omega), ok_bind]
  apply micros_of_lt
  exact Nat.lt_of_lt_of_le (Nat.add_lt_add (measurementTime_lt s) hheating) (by decide)

/-- Encodes what is left of a duration after `factor` divisions have been made. -/
def encodeWait (duration factor : Nat) : Checked UInt8 :=
  if duration ≤ 0x3F then do
    let shifted ← within 0x100 (factor * 64)
    let code ← within 0x100 (duration + shifted)
    return UInt8.ofNat code
  else do
    let factor ← within 0x100 (factor + 1)
    encodeWait (duration / 4) factor
termination_by duration
decreasing_by omega

theorem encodeWait_of_le {duration factor : Nat} (hfactor : factor ≤ 3) (h : duration ≤ 0x3F) :
    encodeWait duration factor = .ok (waitCode duration + UInt8.ofNat (factor * 64)) := by
  rw [encodeWait, if_pos h, within_of_lt (by omega), ok_bind, within_of_lt (by omega), ok_bind,
    waitCode, if_pos h, UInt8.ofNat_add]
  rfl

/-- While the divisions still to come and those made are three at most, the code fits a byte. -/
theorem encodeWait_eq {k : Nat} {duration factor : Nat} (hfactor : factor + k ≤ 3)
    (h : duration < 64 * 4 ^ k) :
    encodeWait duration factor = .ok (waitCode duration + UInt8.ofNat (factor * 64)) := by
  -- A division moves one from those still to come to those made, so their sum stays.
  induction k generalizing duration factor with
  | zero => exact encodeWait_of_le hfactor (by omega)
  | succ k ih =>
    by_cases hfits : duration ≤ 0x3F
    · exact encodeWait_of_le (by omega) hfits
    · have hdivided : duration / 4 < 64 * 4 ^ k := by
        rw [Nat.pow_succ] at h
        omega
      rw [encodeWait, if_neg hfits, within_of_lt (by omega), ok_bind, ih (by omega) hdivided,
        waitCode.eq_def duration, if_neg hfits, Nat.succ_mul, UInt8.ofNat_add, UInt8.add_assoc,
        UInt8.add_comm (UInt8.ofNat _)]
      rfl

/-- Without a cut-off the exponent would leave the byte. -/
example : encodeWait 4096 0 = .error .overflow := by cbv

/-- Without a cut-off the exponent would leave the byte for long durations. -/
def gasWaitCode (milliseconds : UInt16) : Checked UInt8 :=
  if 0x0FC0 ≤ milliseconds then .ok 0xFF else encodeWait milliseconds.toNat 0

def sharedWaitCode (milliseconds : UInt16) : Checked UInt8 :=
  if 0x0783 ≤ milliseconds then .ok 0xFF
  else do
    let scaled ← within 0x100000000 (milliseconds.toNat * 1000)
    encodeWait (scaled / 477) 0

theorem encodeWait_first {duration : Nat} (h : duration < 4096) :
    encodeWait duration 0 = .ok (waitCode duration) := by
  rw [encodeWait_eq (k := 3) le_rfl h]
  exact congrArg Except.ok (UInt8.add_zero _)

theorem gasWaitCode_eq (milliseconds : UInt16) :
    gasWaitCode milliseconds = .ok (Bme68x.gasWaitCode milliseconds) := by
  unfold gasWaitCode Bme68x.gasWaitCode
  split
  · rfl
  · next hshort => exact encodeWait_first (toNat_lt_of_short hshort)

theorem sharedWaitCode_eq (milliseconds : UInt16) :
    sharedWaitCode milliseconds = .ok (Bme68x.sharedWaitCode milliseconds) := by
  unfold sharedWaitCode Bme68x.sharedWaitCode
  split
  · rfl
  · next hshort =>
    have hlt := toNat_lt_of_sharedShort hshort
    rw [within_of_lt (by omega), ok_bind]
    exact encodeWait_first (by omega)

/-- Forced mode takes the first step of the profile, and there must be one. -/
def programmedSteps (s : Settings) : Checked (List HeaterStep) :=
  match s.mode with
  | .forced => slice s.heater.steps 0 1
  | .parallel => .ok s.heater.steps

/-- Forced mode needs a first step, which an active heater has by what it means to be active. -/
theorem programmedSteps_eq {s : Settings} (hactive : s.heater.active) :
    programmedSteps s = .ok (Bme68x.programmedSteps s) := by
  unfold programmedSteps Bme68x.programmedSteps
  cases s.mode with
  | forced =>
    have hsteps : s.heater.steps ≠ [] := by
      intro hnone
      simp [Heater.active, hnone] at hactive
    have hlength := List.length_pos_iff.mpr hsteps
    exact slice_of_le (by omega)
  | parallel => rfl

/-- A heater without steps is not active, and must not be programmed in forced mode. -/
example : programmedSteps { Settings.standard with heater := ⟨true, [], 140, by decide⟩ } =
    .error .outOfBounds := rfl

/-- The register at a place in a bank, which has to stay a byte. -/
def bankRegister (first : UInt8) (place : Nat) : Checked UInt8 := do
  let register ← within 0x100 (first.toNat + place)
  return UInt8.ofNat register

theorem bankRegister_eq {first : UInt8} {place : Nat} (h : first.toNat + place < 0x100) :
    bankRegister first place = .ok (first + UInt8.ofNat place) := by
  rw [bankRegister, within_of_lt h, ok_bind, UInt8.ofNat_add, UInt8.ofNat_toNat]
  rfl

def stepWait (mode : Mode) (step : HeaterStep) : Checked UInt8 :=
  match mode with
  | .forced => gasWaitCode step.duration
  | .parallel => .ok (stepMultiplier step.duration)

theorem stepWait_eq (mode : Mode) (step : HeaterStep) :
    stepWait mode step = .ok (Bme68x.stepWait mode step) := by
  cases mode with
  | forced => exact gasWaitCode_eq _
  | parallel => rfl

def stepWrite (s : Settings) (c : Calibration) (step : HeaterStep) (place : Nat) :
    Checked (List RegisterWrite) := do
  let wait ← stepWait s.mode step
  let resistance ← bankRegister Register.heaterResistance place
  let waiting ← bankRegister Register.gasWait place
  return [⟨resistance, c.heaterResistance step.temperature s.ambient⟩, ⟨waiting, wait⟩]

def stepWrites (s : Settings) (c : Calibration) : Checked (List RegisterWrite) := do
  let steps ← programmedSteps s
  let writes ← steps.zipIdx.mapM fun (step, place) => stepWrite s c step place
  return writes.flatten

theorem stepWrites_eq {s : Settings} (hactive : s.heater.active) (c : Calibration) :
    stepWrites s c = .ok (Bme68x.stepWrites s c) := by
  have hlength := Driver.length_programmedSteps_le s
  unfold maxHeaterSteps at hlength
  rw [stepWrites, programmedSteps_eq hactive, ok_bind, mapM_eq_ok]
  · rfl
  · rintro ⟨step, place⟩ hmem
    have hplace := (List.mem_zipIdx' hmem).1
    show stepWrite s c step place = _
    rw [stepWrite, stepWait_eq, ok_bind,
      bankRegister_eq (show 0x5A + place < 0x100 by omega), ok_bind,
      bankRegister_eq (show 0x64 + place < 0x100 by omega), ok_bind]
    rfl

def sharedWrites (s : Settings) : Checked (List RegisterWrite) :=
  match s.mode with
  | .forced => .ok []
  | .parallel => do
    let wait ← sharedWaitCode s.heater.sharedDuration
    return [⟨Register.sharedWait, wait⟩]

theorem sharedWrites_eq (s : Settings) : sharedWrites s = .ok (Bme68x.sharedWrites s) := by
  unfold sharedWrites Bme68x.sharedWrites
  cases s.mode with
  | forced => rfl
  | parallel =>
    dsimp only
    rw [sharedWaitCode_eq, ok_bind]
    rfl

def configuration (s : Settings) (variant : Variant) (c : Calibration) :
    Checked (List RegisterWrite) :=
  if s.heater.active then do
    let steps ← stepWrites s c
    let shared ← sharedWrites s
    return measurementWrites s ++ (steps ++ shared ++
      [⟨Register.gasControl0, 0⟩,
       ⟨Register.gasControl1, runGas variant ||| (stepCount s &&& 0x0F)⟩])
  else return measurementWrites s ++ heaterOffWrites

/-- No check fails in the whole list of writes, for any settings, variant and calibration. -/
theorem configuration_eq (s : Settings) (variant : Variant) (c : Calibration) :
    configuration s variant c = .ok (Bme68x.configuration s variant c) := by
  unfold configuration Bme68x.configuration
  split
  · next hactive =>
    rw [stepWrites_eq hactive, ok_bind, sharedWrites_eq, ok_bind]
    rfl
  · rfl

end AirStation.Bme68x.Checked
