import AirStation.Proofs.Bme68x.Learning
import Mathlib.Control.Monad.Basic

/-!
What a set-up leaves in the control area of a BME68x. `image` gives every register of the area from
the settings and the part alone. The writes of a configuration agree with it, and they leave out
only registers that a reset has put right already, so the order of the writes and the earlier
contents do not matter (`init_writes_image`).

The proof first follows the script of a set-up: a reset, reads, and the writes of the configuration.
Reads move the pointer of the device and nothing else. What is left is a list of writes to a cleared
area, each of which writes what the image says, while the image is zero wherever none of them goes.
-/

namespace AirStation.Bme68x

/-- The step that is programmed at a place of the profile. Forced mode knows only the first. -/
def Settings.stepAt? (s : Settings) (place : Nat) : Option HeaterStep :=
  match s.mode with
  | .forced => if place = 0 then s.heater.steps.head? else none
  | .parallel => s.heater.steps[place]?

/-- The part of the image that an active heater decides: the bank of resistances, the bank of waits,
the shared wait, and the register that runs the gas measurement. -/
def heaterImage (s : Settings) (variant : Variant) (c : Calibration) (register : UInt8) : UInt8 :=
  if register < 0x64 then
    match s.stepAt? (register.toNat - 0x5A) with
    | some step => c.heaterResistance step.temperature s.ambient
    | none => 0
  else if register < 0x6E then
    match s.stepAt? (register.toNat - 0x64), s.mode with
    | some step, .forced => gasWaitCode step.duration
    | some step, .parallel => UInt8.ofNat (min step.duration.toNat 255)
    | none, _ => 0
  else if register = 0x6E then
    match s.mode with
    | .forced => 0
    | .parallel => sharedWaitCode s.heater.sharedDuration
  else if register = 0x71 then
    match s.mode with
    | .forced => runGas variant
    | .parallel => runGas variant ||| UInt8.ofNat s.heater.steps.length
  else 0

/-- The contents of the control area after a set-up. The oversampling and the filter come first; the
rest belongs to the heater, which is turned off by one bit if it is not active. -/
def image (s : Settings) (variant : Variant) (c : Calibration) (register : UInt8) : UInt8 :=
  if register = 0x72 then s.humidity.code
  else if register = 0x75 then s.filter.code <<< 2
  else if register = 0x74 then s.temperature.code <<< 5 ||| s.pressure.code <<< 2
  else if s.heater.active then heaterImage s variant c register
  else if register = 0x70 then 0x08
  else 0

section Image

variable {s : Settings} {variant : Variant} {c : Calibration}

theorem getElem?_programmedSteps (s : Settings) (place : Nat) :
    (programmedSteps s)[place]? = s.stepAt? place := by
  unfold programmedSteps Settings.stepAt?
  cases s.mode with
  | parallel => rfl
  | forced =>
    cases place with
    | zero => simp [List.head?_eq_getElem?]
    | succ place =>
      show (s.heater.steps.take 1)[place + 1]? = none
      rw [List.getElem?_eq_none_iff, List.length_take]
      omega

theorem stepWait_parallel (step : HeaterStep) :
    stepWait .parallel step = UInt8.ofNat (min step.duration.toNat 255) := by
  have hlimit : (0xFF : UInt16).toNat = 255 := rfl
  have hmin : (min step.duration 0xFF).toNat = min step.duration.toNat 255 := by
    show (if step.duration ≤ 0xFF then step.duration else 0xFF).toNat = _
    split
    · next hle =>
      have hle := UInt16.le_iff_toNat_le.mp hle
      omega
    · next hgt =>
      have hgt := UInt16.lt_iff_toNat_lt.mp (UInt16.not_le.mp hgt)
      omega
  apply UInt8.toNat_inj.mp
  rw [stepWait, stepMultiplier, UInt16.toNat_toUInt8, UInt8.toNat_ofNat', hmin]

/-- The count of a profile that is short enough fits its four bits. -/
theorem stepCount_parallel (hmode : s.mode = .parallel) :
    stepCount s &&& 0x0F = UInt8.ofNat s.heater.steps.length := by
  have hfits : ∀ n ≤ maxHeaterSteps, UInt8.ofNat n &&& 0x0F = UInt8.ofNat n := by decide
  simp only [stepCount, hmode]
  exact hfits _ s.heater.length_steps_le

/-- Below the shared wait there are only the two banks of the heater, so oversampling has no say
there. -/
theorem image_bank {register : UInt8} (hactive : s.heater.active)
    (hregister : register.toNat < 0x6E) : image s variant c register =
      heaterImage s variant c register := by
  have hne : ∀ other : UInt8, 0x6E ≤ other.toNat → register ≠ other := by
    rintro other hother rfl
    omega
  rw [image, if_neg (hne 0x72 (by decide)), if_neg (hne 0x75 (by decide)),
    if_neg (hne 0x74 (by decide)), if_pos hactive]

theorem toNat_add_place {base : UInt8} {place : Nat} (hbase : base.toNat ≤ 0x64)
    (hplace : place < 10) : (base + UInt8.ofNat place).toNat = base.toNat + place := by
  rw [UInt8.toNat_add, UInt8.toNat_ofNat']
  omega

theorem image_resistance (hactive : s.heater.active) {place : Nat} (hplace : place < 10)
    {step : HeaterStep} (hstep : s.stepAt? place = some step) :
    image s variant c (Register.heaterResistance + UInt8.ofNat place) =
      c.heaterResistance step.temperature s.ambient := by
  have hregister : (Register.heaterResistance + UInt8.ofNat place).toNat = 0x5A + place :=
    toNat_add_place (by decide) hplace
  have hlt : Register.heaterResistance + UInt8.ofNat place < 0x64 := by
    rw [UInt8.lt_iff_toNat_lt, hregister]
    show 0x5A + place < 0x64
    omega
  rw [image_bank hactive (by omega), heaterImage, if_pos hlt, hregister, Nat.add_sub_cancel_left,
    hstep]

theorem image_wait (hactive : s.heater.active) {place : Nat} (hplace : place < 10)
    {step : HeaterStep} (hstep : s.stepAt? place = some step) :
    image s variant c (Register.gasWait + UInt8.ofNat place) = stepWait s.mode step := by
  have hregister : (Register.gasWait + UInt8.ofNat place).toNat = 0x64 + place :=
    toNat_add_place (by decide) hplace
  have hge : ¬ Register.gasWait + UInt8.ofNat place < 0x64 := by
    rw [UInt8.lt_iff_toNat_lt, hregister]
    show ¬ 0x64 + place < 0x64
    omega
  have hlt : Register.gasWait + UInt8.ofNat place < 0x6E := by
    rw [UInt8.lt_iff_toNat_lt, hregister]
    show 0x64 + place < 0x6E
    omega
  rw [image_bank hactive (by omega), heaterImage, if_neg hge, if_pos hlt, hregister,
    Nat.add_sub_cancel_left, hstep]
  cases s.mode with
  | forced => rfl
  | parallel => exact (stepWait_parallel step).symm

/-- What is written is what the image says, whichever of the writes it is. -/
theorem value_of_mem_configuration {w : RegisterWrite} (hw : w ∈ configuration s variant c) :
    w.value = image s variant c w.register := by
  rcases List.mem_append.mp hw with hmeasurement | hheater
  · simp only [measurementWrites, List.mem_cons, List.not_mem_nil, or_false] at hmeasurement
    rcases hmeasurement with rfl | rfl | rfl
    · rfl
    · rfl
    · exact UInt8.or_zero
  by_cases hactive : s.heater.active
  · rw [if_pos hactive] at hheater
    simp only [heaterOnWrites, List.mem_append, List.mem_cons, List.not_mem_nil,
      or_false] at hheater
    rcases hheater with (hstep | hshared) | rfl | rfl
    · obtain ⟨⟨step, place⟩, hstep, hw⟩ := List.mem_flatMap.mp hstep
      have hplace : place < 10 := by
        have hlength : place < (programmedSteps s).length := by
          simpa using (List.mem_zipIdx hstep).2.1
        exact Nat.lt_of_lt_of_le hlength (Driver.length_programmedSteps_le s)
      have hat : s.stepAt? place = some step := by
        rw [← getElem?_programmedSteps]
        simpa using List.mem_zipIdx_iff_getElem?.mp hstep
      simp only [List.mem_cons, List.not_mem_nil, or_false] at hw
      rcases hw with rfl | rfl
      · exact (image_resistance hactive hplace hat).symm
      · exact (image_wait hactive hplace hat).symm
    · unfold sharedWrites at hshared
      cases hmode : s.mode with
      | forced => simp [hmode] at hshared
      | parallel =>
        obtain rfl : w = _ := by simpa [hmode] using hshared
        simp [image, heaterImage, hactive, hmode, Register.sharedWait]
    · simp [image, heaterImage, hactive, Register.gasControl0]
    · cases hmode : s.mode with
      | forced => simp [image, heaterImage, hactive, hmode, Register.gasControl1, stepCount]
      | parallel =>
        simp [image, heaterImage, hactive, hmode, Register.gasControl1, stepCount_parallel hmode]
  · rw [if_neg hactive] at hheater
    simp only [heaterOffWrites, List.mem_cons, List.not_mem_nil, or_false] at hheater
    rcases hheater with rfl | rfl
    · simp [image, hactive, Register.gasControl0]
    · simp [image, hactive, Register.gasControl1]

theorem eq_add_place {base register : UInt8} (h : base ≤ register) :
    register = base + UInt8.ofNat (register.toNat - base.toNat) := by
  have hle := UInt8.le_iff_toNat_le.mp h
  have hlt := register.toNat_lt
  apply UInt8.toNat_inj.mp
  rw [UInt8.toNat_add, UInt8.toNat_ofNat']
  omega

theorem mem_stepWrites {place : Nat} {step : HeaterStep} (hstep : s.stepAt? place = some step) :
    ⟨Register.heaterResistance + UInt8.ofNat place,
        c.heaterResistance step.temperature s.ambient⟩ ∈ stepWrites s c ∧
      ⟨Register.gasWait + UInt8.ofNat place, stepWait s.mode step⟩ ∈ stepWrites s c := by
  have hmem : (step, place) ∈ (programmedSteps s).zipIdx := by
    rw [List.mem_zipIdx_iff_getElem?, getElem?_programmedSteps]
    exact hstep
  constructor
  · exact List.mem_flatMap.mpr ⟨_, hmem, .head _⟩
  · exact List.mem_flatMap.mpr ⟨_, hmem, .tail _ (.head _)⟩

/-- Where the heater's part of the image is not zero, something is written. In the banks this is a
write for the place, and above them there are the fixed ones. -/
theorem written_of_heaterImage_ne_zero {register : UInt8} (hcontrol : Control register)
    (himage : heaterImage s variant c register ≠ 0) :
    ∃ w ∈ heaterOnWrites s variant c, w.register = register := by
  unfold heaterImage at himage
  simp only [heaterOnWrites, List.mem_append]
  by_cases hresistance : register < 0x64
  · rw [if_pos hresistance] at himage
    cases hstep : s.stepAt? (register.toNat - 0x5A) with
    | none => simp [hstep] at himage
    | some step =>
      exact ⟨_, .inl (.inl (mem_stepWrites hstep).1), (eq_add_place hcontrol.1).symm⟩
  rw [if_neg hresistance] at himage
  by_cases hwait : register < 0x6E
  · rw [if_pos hwait] at himage
    cases hstep : s.stepAt? (register.toNat - 0x64) with
    | none => simp [hstep] at himage
    | some step =>
      have hbase := eq_add_place (UInt8.not_lt.mp hresistance)
      exact ⟨_, .inl (.inl (mem_stepWrites (c := c) hstep).2), hbase.symm⟩
  rw [if_neg hwait] at himage
  by_cases hshared : register = 0x6E
  · cases hmode : s.mode with
    | forced => simp [hshared, hmode] at himage
    | parallel =>
      have hmem : ⟨0x6E, sharedWaitCode s.heater.sharedDuration⟩ ∈ sharedWrites s := by
        rw [sharedWrites, hmode]
        exact .head _
      exact ⟨_, .inl (.inr hmem), hshared.symm⟩
  rw [if_neg hshared] at himage
  by_cases hgas : register = 0x71
  · exact ⟨⟨0x71, _⟩, .inr (.tail _ (.head _)), hgas.symm⟩
  · exact absurd (if_neg hgas) himage

/-- Where the image is not zero, something is written; the remaining registers keep the zero of the
reset. -/
theorem written_of_image_ne_zero {register : UInt8} (hcontrol : Control register)
    (himage : image s variant c register ≠ 0) :
    ∃ w ∈ configuration s variant c, w.register = register := by
  by_cases hhumidity : register = 0x72
  · exact ⟨⟨0x72, _⟩, List.mem_append_left _ (.head _), hhumidity.symm⟩
  by_cases hfilter : register = 0x75
  · exact ⟨⟨0x75, _⟩, List.mem_append_left _ (.tail _ (.head _)), hfilter.symm⟩
  by_cases hmeasurement : register = 0x74
  · exact ⟨⟨0x74, _⟩, List.mem_append_left _ (.tail _ (.tail _ (.head _))), hmeasurement.symm⟩
  rw [image, if_neg hhumidity, if_neg hfilter, if_neg hmeasurement] at himage
  have hheater : ∃ w ∈ if s.heater.active then heaterOnWrites s variant c else heaterOffWrites,
      w.register = register := by
    by_cases hactive : s.heater.active
    · rw [if_pos hactive] at himage ⊢
      exact written_of_heaterImage_ne_zero hcontrol himage
    · rw [if_neg hactive] at himage ⊢
      by_cases hgas : register = 0x70
      · exact ⟨⟨0x70, _⟩, .head _, hgas.symm⟩
      · exact absurd (if_neg hgas) himage
  obtain ⟨w, hw, hregister⟩ := hheater
  exact ⟨w, List.mem_append_right _ hw, hregister⟩

end Image

section Script

variable {address : UInt8}

theorem completes_writeRegister (failure : Fault → SensorError) (address register value : UInt8) :
    Completes (attempt failure (Device.writeRegister address register value)) fun actions _ =>
      actions = [.exchanged (.wrote address [register, value])] := by
  apply completes_attempt
  refine (Device.always_write _ _ _).mpr ⟨fun _ _ => rfl, ?_⟩
  rintro fault _ ⟨⟩

theorem completes_writeAll (address : UInt8) (writes : List RegisterWrite) :
    Completes (Driver.writeAll address writes) fun actions _ =>
      actions.filterMap Action.exchange? =
        writes.map fun w => .wrote address [w.register, w.value] := by
  induction writes with
  | nil => exact (completes_pure _ _).mpr rfl
  | cons w rest ih =>
    refine (completes_writeRegister _ address w.register w.value).bind ?_
    rintro _ _ rfl
    exact ih.mono fun actions _ hactions => congrArg _ hactions

/-- Registers are read at the address, every read is answered, and nothing else is done. -/
def Fetches (address : UInt8) (exchanges : List Exchange) : Prop :=
  ∀ x ∈ exchanges, ∃ register count, ∃ bytes : Vector UInt8 count,
    x = .fetched address register bytes

@[simp] theorem fetches_nil (address : UInt8) : Fetches address [] :=
  List.forall_mem_nil _

@[simp] theorem fetches_cons (address register : UInt8) {count : Nat} (bytes : Vector UInt8 count)
    (rest : List Exchange) :
    Fetches address (.fetched address register bytes :: rest) ↔ Fetches address rest :=
  List.forall_mem_cons.trans (and_iff_right ⟨register, count, bytes, rfl⟩)

/-- Identification begins with the reset, which is the only write in it. -/
theorem completes_identify_script (address : UInt8) :
    Completes (Driver.identify address) fun actions _ => ∃ reads, Fetches address reads ∧
      actions.filterMap Action.exchange? =
        .wrote address [Register.softReset, softResetCommand] :: reads := by
  refine (completes_writeRegister _ address _ _).bind ?_
  rintro _ _ rfl
  refine ((completes_settle softResetMillis fun actions _ =>
    actions = [.paused softResetMillis]).mpr rfl).bind ?_
  rintro _ _ rfl
  refine (completes_readByte _ address Register.chipId).bind ?_
  rintro _ found ⟨id, rfl, -⟩
  by_cases hfound : found = chipId
  · simp only [hfound, ne_eq, not_true_eq_false, if_false]
    refine (completes_readByte _ address Register.variantId).bind ?_
    rintro _ _ ⟨variant, rfl, rfl⟩
    refine (completes_pure _ _).mpr ⟨_, ?_, rfl⟩
    simp
  · simp only [hfound, ne_eq, not_false_eq_true, if_true]
    exact completes_throw _ _

theorem completes_readCalibration_script (address : UInt8) :
    Completes (Driver.readCalibration address) fun actions _ =>
      Fetches address (actions.filterMap Action.exchange?) := by
  refine (completes_readRegister _ address 0x8A 23).bind ?_
  rintro _ first rfl
  refine (completes_readRegister _ address 0xE1 14).bind ?_
  rintro _ second rfl
  refine (completes_readRegister _ address 0x00 5).bind ?_
  rintro _ third rfl
  refine (completes_pure _ _).mpr ?_
  simp

/-- A set-up that succeeds resets the device, reads what the part is, and writes the configuration
for what it has read. All of these exchanges are acknowledged. -/
theorem Driver.init_script (d : Driver) (now : Micros) :
    (d.init now).Always fun actions outcome => outcome.1 = .ok () →
      ∃ reads, Fetches d.address reads ∧ actions.filterMap Action.exchange? =
        .wrote d.address [Register.softReset, softResetCommand] :: reads ++
          (configuration d.settings outcome.2.variant outcome.2.calibration).map fun w =>
            .wrote d.address [w.register, w.value] := by
  apply BusM.Always.bind (completes_identify_script d.address)
  intro asked identified hidentified
  cases identified with
  | error error => exact fun h => nomatch h
  | ok variant =>
    obtain ⟨asks, hasks, hasked⟩ := hidentified variant rfl
    apply BusM.Always.bind (completes_readCalibration_script d.address)
    intro read calibrated hread
    cases calibrated with
    | error error => exact fun h => nomatch h
    | ok calibration =>
      have hread := hread calibration rfl
      apply BusM.Always.bind (completes_writeAll d.address _)
      intro written result hwritten
      cases result with
      | error error => exact fun h => nomatch h
      | ok _ =>
        have hwritten := hwritten () rfl
        intro _
        have hreads := List.forall_mem_append.mpr ⟨hasks, hread⟩
        refine ⟨asks ++ read.filterMap Action.exchange?, hreads, ?_⟩
        simp [hasked, hwritten]

end Script

namespace Model

variable {m : Model} {address : UInt8}

theorem register_pointer (m : Model) (pointer register : UInt8) :
    ({ m with pointer := pointer } : Model).register register = m.register register :=
  rfl

/-- Reading moves the pointer of the device and leaves everything else as it was. -/
theorem foldl_fetches {exchanges : List Exchange} (h : Fetches address exchanges) (m : Model) :
    ∃ pointer, exchanges.foldl (served address) m = { m with pointer := pointer } := by
  induction exchanges generalizing m with
  | nil => exact ⟨m.pointer, rfl⟩
  | cons x rest ih =>
    obtain ⟨⟨register, count, bytes, rfl⟩, hrest⟩ := List.forall_mem_cons.mp h
    obtain ⟨pointer, hpointer⟩ := ih hrest { m with pointer := register }
    exact ⟨pointer, by simpa using hpointer⟩

/-- The writes one after another, as a model of the device takes them while it sleeps. -/
def setAll (m : Model) (writes : List RegisterWrite) : Model :=
  writes.foldl (fun m w => m.setRegister w.register w.value) m

/-- A device to which only configuration is written does nothing but take the writes. -/
theorem foldl_configure {writes : List RegisterWrite}
    (h : ∀ w ∈ writes, Control w.register ∧ w.Asleep) (m : Model) :
    (writes.map fun w => .wrote address [w.register, w.value]).foldl (served address) m =
      m.setAll writes := by
  induction writes generalizing m with
  | nil => rfl
  | cons w rest ih =>
    obtain ⟨⟨hcontrol, hasleep⟩, hrest⟩ := List.forall_mem_cons.mp h
    have hwrite := m.receive_configure hcontrol hasleep.2
    simp only [List.map_cons, List.foldl_cons, served_wrote, hwrite]
    exact ih hrest _

/-- Writes that agree with an image leave it behind, wherever they or the earlier contents put
something. No order of the writes is assumed. -/
theorem register_setAll {writes : List RegisterWrite} {contents : UInt8 → UInt8}
    (hwrites : ∀ w ∈ writes, w.value = contents w.register) {register : UInt8}
    (hrest : (∃ w ∈ writes, w.register = register) ∨ m.register register = contents register) :
    (m.setAll writes).register register = contents register := by
  induction writes generalizing m with
  | nil => exact hrest.resolve_left (by simp)
  | cons w rest ih =>
    obtain ⟨hw, hvalues⟩ := List.forall_mem_cons.mp hwrites
    apply ih hvalues
    by_cases hregister : w.register = register
    · right
      rw [register_setRegister, if_pos hregister, hw, hregister]
    · rw [register_setRegister, if_neg hregister]
      simpa [hregister] using hrest

/-- After a reset and the configuration the control area holds the image. -/
theorem register_configured (s : Settings) (variant : Variant) (c : Calibration) (pointer : UInt8)
    {register : UInt8} (hcontrol : Control register) :
    (({ m.reset with pointer := pointer } : Model).setAll (configuration s variant c)).register
      register = image s variant c register := by
  apply register_setAll fun w => value_of_mem_configuration
  by_cases himage : image s variant c register = 0
  · right
    rw [register_pointer, register_reset, if_pos hcontrol, himage]
  · exact .inl (written_of_image_ne_zero hcontrol himage)

theorem lastMode_serve {transfer : Transfer} (h : SetupTransfer transfer) (m : Model) :
    (Responder.serve m transfer).2.lastMode = m.lastMode := by
  cases h with
  | reset =>
    refine (congrArg lastMode m.receive_reset).trans ?_
    simp only [reset]
  | configure w hcontrol hasleep =>
    have hreceive := m.receive_configure hcontrol hasleep.2
    exact (congrArg lastMode hreceive).trans rfl
  | read register count hregister => rfl

end Model

theorem Installs.keeps_lastMode {address : UInt8} {action : Action Event}
    (h : Installs address action) (other : UInt8) : action.Keeps other Model.lastMode := by
  cases action with
  | exchanged e => exact Action.keeps_of_serve (Model.lastMode_serve h.2)
  | paused | reported => trivial

namespace Driver

/-- Whatever the device held before, a set-up that succeeds leaves the image for the settings and
the part in the control area. The driver has learnt what the part is, and no measurement has been
started: nothing that could start one is sent, and the mode of the last one, the staged fields and
all other registers are as they were. -/
theorem init_writes_image (d : Driver) (now : Micros) (bus : SimulatedBus) (m : Model)
    (hat : Model.AnswersAt d.address bus m)
    (hready : ((d.init now).run bus).value.1 = .ok ()) :
    let run := (d.init now).run bus
    ∃ m', Model.AnswersAt d.address run.bus m' ∧
      (∀ register, 0x5A ≤ register → register ≤ 0x75 →
        m'.register register = image d.settings m.variant m.trimming register) ∧
      run.value.2.variant = m.variant ∧
      run.value.2.calibration =
        .ofCoefficients (m.block 0x8A 23 ++ m.block 0xE1 14 ++ m.block 0x00 5) ∧
      (∀ x ∈ run.exchanges, Preparing x.transfer) ∧
      m'.lastMode = m.lastMode ∧ m'.staged = m.staged ∧
      ∀ register, ¬ Control register → m'.register register = m.register register := by
  intro run
  obtain ⟨hgenuine, hafter⟩ := (Model.wired d.address).run (d.init now) hat
  have hinstalls : ∀ action ∈ run.actions, Installs d.address action :=
    ((BusM.does_iff_always _ _).mp (d.init_installs now)).run bus
  obtain ⟨hvariant, hcalibration⟩ : run.value.2.variant = m.variant ∧
      run.value.2.calibration = m.trimming :=
    Prod.mk.inj (((d.init_learns now).run bus).knows hinstalls hgenuine (.inr hready))
  obtain ⟨reads, hreads, hscript⟩ := (d.init_script now).run bus hready
  have hmemory : (run.exchanges.foldl (served d.address) m).memory = m.memory :=
    foldl_served_eq (fun action haction => (hinstalls action haction).keeps d.address) m
  have hmode : (run.exchanges.foldl (served d.address) m).lastMode = m.lastMode :=
    foldl_served_eq (fun action haction => (hinstalls action haction).keeps_lastMode d.address) m
  refine ⟨_, hafter, ?_, hvariant, hcalibration, ?_, hmode, Model.staged_of_memory hmemory,
    fun register => Model.register_of_memory hmemory⟩
  · intro register hlow hhigh
    have hscript : run.exchanges = _ := hscript
    rw [hscript, List.foldl_append, List.foldl_cons, served_wrote, Model.receive_reset]
    obtain ⟨pointer, hpointer⟩ := Model.foldl_fetches hreads m.reset
    rw [hpointer, Model.foldl_configure fun w hw => asleep_of_mem_configuration hw, hvariant,
      hcalibration]
    exact Model.register_configured _ _ _ _ ⟨hlow, hhigh⟩
  · intro x hx
    exact (hinstalls _ (Action.mem_exchanges.mp hx)).setsUp.2

/-- A longer profile than the present one has left something behind, and one duration is too long
for its register. -/
theorem init_writes_image_parallel :
    let heater : Heater := ⟨true, [⟨320, 5⟩, ⟨200, 300⟩], 140, by decide⟩
    let d := create 0x76 1000000 { Settings.standard with mode := .parallel, heater := heater }
    let m := (Model.standard.setRegister 0x66 0x77).setRegister Register.variantId 1
    ((d.init 0).run m.lone).value.1 = .ok () ∧
    ∃ m', Model.AnswersAt 0x76 ((d.init 0).run m.lone).bus m' ∧
      [0x64, 0x65, 0x66, 0x71, 0x74].map m'.register = [5, 255, 0, 0x22, 0x8C] := by
  intro heater d m
  have hready : ((d.init 0).run m.lone).value.1 = .ok () := by decide +kernel
  obtain ⟨m', hat, himage, -⟩ := init_writes_image d 0 m.lone m m.answersAt_lone hready
  have hregisters : ∀ register ∈ [0x64, 0x65, 0x66, 0x71, 0x74],
      m'.register register = image d.settings m.variant m.trimming register := by
    intro register hregister
    have hcontrol : ∀ register ∈ [0x64, 0x65, 0x66, 0x71, 0x74], Control register := by
      decide +kernel
    exact himage register (hcontrol register hregister).1 (hcontrol register hregister).2
  refine ⟨hready, m', hat, ?_⟩
  rw [List.map_congr_left hregisters]
  decide +kernel

end Driver

end AirStation.Bme68x
