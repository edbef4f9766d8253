import AirStation.Proofs.Bme68x.Image
import AirStation.Proofs.Bme68x.WaitCode

/-!
The wait of the driver and the heater phase that the device runs. A register holds how long the
device heats; the driver waits for the duration it was configured with, after the time of the
measurement itself. Rounding makes the register the shorter of the two, except for a shared duration
of 1923 ms, whose register says 0.264 ms more (`driver_outwaits_heating`).

The two modes use different registers and different units. Forced mode has the duration of its first
step in milliseconds; parallel mode has one shared duration in steps of 0.477 ms. Both are encoded
with a mantissa of six bits and an exponent of two.
-/

namespace AirStation.Bme68x

/-- The register that says how long a measurement heats: in forced mode that of the first step, in
parallel mode the shared one. -/
def heatingRegister : Mode → UInt8
  | .forced => Register.gasWait
  | .parallel => Register.sharedWait

/-- How long the device heats for what that register holds: a count of milliseconds in forced mode,
of 0.477 ms in parallel mode. -/
def heatingTime (mode : Mode) (code : UInt8) : Micros :=
  match mode with
  | .forced => .ofMillis (decodedWait code)
  | .parallel => decodedWait code * 477

namespace Settings

variable {s : Settings}

/-- An active heater has a profile with at least one step, so the first place is programmed. -/
theorem exists_step_of_active (hactive : s.heater.active) : ∃ step, s.stepAt? 0 = some step := by
  unfold stepAt?
  cases hsteps : s.heater.steps with
  | nil => simp [Heater.active, hsteps] at hactive
  | cons step rest => exact ⟨step, by cases s.mode <;> rfl⟩

theorem conversionTime_forced (hmode : s.mode = .forced) (hactive : s.heater.active)
    {step : HeaterStep} (hstep : s.stepAt? 0 = some step) :
    s.conversionTime = s.measurementTime + .ofMillis step.duration.toNat := by
  have hhead : s.heater.steps.head? = some step := by
    simpa [stepAt?, hmode] using hstep
  simp [conversionTime, heaterMillis, hactive, hmode, hhead]

theorem conversionTime_parallel (hmode : s.mode = .parallel) (hactive : s.heater.active) :
    s.conversionTime = s.measurementTime + .ofMillis s.heater.sharedDuration.toNat := by
  simp [conversionTime, heaterMillis, hactive, hmode]

end Settings

section Configuration

variable {s : Settings} (variant : Variant) (c : Calibration)

theorem mem_configuration_of_active {variant : Variant} {c : Calibration}
    (hactive : s.heater.active) {w : RegisterWrite} (hw : w ∈ stepWrites s c ++ sharedWrites s) :
    w ∈ configuration s variant c := by
  rw [configuration, if_pos hactive]
  exact List.mem_append_right _ (List.mem_append_left _ hw)

/-- A heated measurement has its heating time written, and nothing else into that register, so the
last write does not undo an earlier one. -/
theorem heating_written {variant : Variant} {c : Calibration} (hactive : s.heater.active)
    {code : UInt8} (hcode : image s variant c (heatingRegister s.mode) = code) :
    (∃ w ∈ configuration s variant c, w.register = heatingRegister s.mode) ∧
      ∀ w ∈ configuration s variant c, w.register = heatingRegister s.mode → w.value = code := by
  constructor
  · obtain ⟨step, hstep⟩ := Settings.exists_step_of_active hactive
    cases hmode : s.mode with
    | forced =>
      have hmem := (mem_stepWrites (c := c) hstep).2
      exact ⟨_, mem_configuration_of_active hactive (List.mem_append_left _ hmem), rfl⟩
    | parallel =>
      let wait : RegisterWrite :=
        ⟨Register.sharedWait, sharedWaitCode s.heater.sharedDuration⟩
      have hmem : wait ∈ sharedWrites s := by
        rw [sharedWrites, hmode]
        exact .head _
      exact ⟨_, mem_configuration_of_active hactive (List.mem_append_right _ hmem), rfl⟩
  · intro w hw hregister
    rw [value_of_mem_configuration hw, hregister, hcode]

theorem image_heating_forced (hmode : s.mode = .forced) (hactive : s.heater.active)
    {step : HeaterStep} (hstep : s.stepAt? 0 = some step) :
    image s variant c (heatingRegister s.mode) = gasWaitCode step.duration := by
  have himage : image s variant c (Register.gasWait + UInt8.ofNat 0) = stepWait s.mode step :=
    image_wait hactive (by decide) hstep
  rw [hmode] at himage ⊢
  exact himage

theorem image_heating_parallel (hmode : s.mode = .parallel) (hactive : s.heater.active) :
    image s variant c (heatingRegister s.mode) = sharedWaitCode s.heater.sharedDuration := by
  simp [image, heaterImage, heatingRegister, Register.sharedWait, hactive, hmode]

end Configuration

/-- The one setting for which the register says more than the duration: parallel mode with 1923 ms,
the first duration for which the longest code is used. -/
def Settings.RoundedUp (s : Settings) : Prop :=
  s.mode = .parallel ∧ s.heater.sharedDuration = 1923

/-- With an active heater the configuration writes how long the device heats. The driver waits at
least for the measurement and for what that register says, except for one shared duration in
parallel mode; there it reads up to 264 µs too early. -/
theorem driver_outwaits_heating (s : Settings) (variant : Variant) (c : Calibration)
    (hactive : s.heater.active) :
    (∃ w ∈ configuration s variant c, w.register = heatingRegister s.mode) ∧
    ∀ w ∈ configuration s variant c, w.register = heatingRegister s.mode →
      (s.measurementTime + heatingTime s.mode w.value ≤ s.conversionTime ↔ ¬ s.RoundedUp) ∧
      s.measurementTime + heatingTime s.mode w.value ≤ s.conversionTime + 264 := by
  cases hmode : s.mode with
  | forced =>
    obtain ⟨step, hstep⟩ := Settings.exists_step_of_active hactive
    have hwritten := heating_written hactive
      (image_heating_forced variant c hmode hactive hstep)
    rw [hmode] at hwritten
    refine ⟨hwritten.1, fun w hw hregister => ?_⟩
    have hnot : ¬ s.RoundedUp := by simp [Settings.RoundedUp, hmode]
    have hheated : heatingTime .forced (gasWaitCode step.duration) ≤
        .ofMillis step.duration.toNat :=
      Nat.mul_le_mul_right 1000 (decodedWait_gasWaitCode_le step.duration)
    rw [hwritten.2 w hw hregister, Settings.conversionTime_forced hmode hactive hstep,
      iff_true_right hnot, Nat.add_assoc, Nat.add_le_add_iff_left, Nat.add_le_add_iff_left]
    exact ⟨hheated, Nat.le_add_right_of_le hheated⟩
  | parallel =>
    have hwritten := heating_written hactive (image_heating_parallel variant c hmode hactive)
    rw [hmode] at hwritten
    refine ⟨hwritten.1, fun w hw hregister => ?_⟩
    have hrounded : s.RoundedUp ↔ s.heater.sharedDuration = 1923 := and_iff_right hmode
    rw [hwritten.2 w hw hregister, Settings.conversionTime_parallel hmode hactive, hrounded,
      Nat.add_assoc, Nat.add_le_add_iff_left, Nat.add_le_add_iff_left]
    exact ⟨decodedWait_sharedWaitCode_le_iff s.heater.sharedDuration,
      decodedWait_sharedWaitCode_le s.heater.sharedDuration⟩

/-- A profile in parallel mode with a duration that the register rounds down. -/
theorem driver_outwaits_heating_parallel :
    let heater : Heater := ⟨true, [⟨320, 5⟩, ⟨200, 3⟩], 140, by decide⟩
    let s : Settings := { Settings.standard with mode := .parallel, heater := heater }
    let w : RegisterWrite := ⟨0x6E, 146⟩
    s.heater.active ∧ w ∈ configuration s .gasHigh .zero ∧ ¬ s.RoundedUp ∧
      s.measurementTime + heatingTime .parallel w.value ≤ s.conversionTime := by
  intro heater s w
  have hactive : s.heater.active := by decide
  have hw : w ∈ configuration s .gasHigh .zero := by decide +kernel
  have hnot : ¬ s.RoundedUp := fun h => absurd h.2 (by decide)
  have houtwaits := (driver_outwaits_heating s .gasHigh .zero hactive).2 w hw rfl
  exact ⟨hactive, hw, hnot, houtwaits.1.mpr hnot⟩

/-- With a shared duration of 1923 ms the device is told to heat for 4032 steps. The driver reads
its fields 264 µs before they are over. -/
theorem fields_read_while_heating :
    let heater : Heater := { Heater.standard with sharedDuration := 1923 }
    let s : Settings := { Settings.standard with mode := .parallel, heater := heater }
    let ready := ((Driver.create 0x76 1000000 s).init 0).run Model.standard.lone
    let triggered := (ready.value.2.update 1000000).run ready.bus
    let early := 1000000 + s.measurementTime + 1923000
    s.heater.active ∧ ⟨heatingRegister s.mode, 0xFF⟩ ∈ configuration s .gasLow .zero ∧
      heatingTime s.mode 0xFF = 1923264 ∧
      s.conversionTime < s.measurementTime + heatingTime s.mode 0xFF ∧
      triggered.value.phase = .waitingForConversion .measurement ∧
      ((triggered.value.update early).run triggered.bus).exchanges.map (·.transfer) =
        [.writeRead [Register.fields] 51] := by
  decide +kernel

end AirStation.Bme68x
