import AirStation.Bme68x.Driver
import AirStation.Proofs.Bus.History
import AirStation.Proofs.Sensor.Setup

/-!
Everything a call on the BME68x driver can do. `Update` lists the outcomes of an update with their
traffic. Setting up takes too many steps for such a list: `Init` gives the drivers it can leave, and
`SetsUp` and `Installs` say what it may put on the bus. `Proper` says this of any call.

These are facts about the program of the driver over every bus. No device takes part in them, and no
answer is trusted; what follows about a device is proved with the list of outcomes and not with the
program.
-/

namespace AirStation.Bme68x

/-- The calls on the driver that take a time. There are no others that touch the bus. -/
inductive Call where
  | init (now : Micros)
  | update (now : Micros)

/-- The area of the configuration, from the first heater resistance to the filter, which a reset
clears. -/
def Control (register : UInt8) : Prop :=
  0x5A ≤ register ∧ register ≤ 0x75

instance (register : UInt8) : Decidable (Control register) :=
  inferInstanceAs (Decidable (_ ∧ _))

/-- The device is only ever written one register at a time, at or above its control area. Pauses are
harmless, and what is reported is about this sensor. -/
def Proper (address : UInt8) : Action Event → Prop
  | .exchanged e =>
    e.address = address ∧
      ∀ bytes, e.transfer = .write bytes → ∃ register value, 0x5A ≤ register ∧
        bytes = [register, value]
  | .paused _ => True
  | .reported event => event.sensor? = some .bme68x

theorem Proper.addressed {address : UInt8} {action : Action Event} (h : Proper address action) :
    action.To (· = address) := by
  cases action with
  | exchanged e => exact h.1
  | paused | reported => trivial

/-- A transfer of a set-up: one control register is written, which leaves the device asleep, or
registers other than the fields are read. -/
def Preparing : Transfer → Prop
  | .write bytes => ∃ register value, bytes = [register, value] ∧ 0x5A ≤ register ∧
      (register = Register.measurementControl → value &&& 0x03 = 0)
  | .writeRead bytes _ => bytes ≠ [Register.fields]
  | .read _ => False

/-- A set-up sends only transfers of this kind, and it reports nothing about other sensors. -/
def SetsUp (address : UInt8) : Action Event → Prop
  | .exchanged e => e.address = address ∧ Preparing e.transfer
  | .paused _ => True
  | .reported event => event.sensor? = some .bme68x

theorem SetsUp.proper {address : UInt8} {action : Action Event} (h : SetsUp address action) :
    Proper address action := by
  cases action with
  | exchanged e =>
    refine ⟨h.1, fun bytes hbytes => ?_⟩
    obtain ⟨-, hpreparing⟩ := h
    rw [hbytes] at hpreparing
    obtain ⟨register, value, rfl, hregister, -⟩ := hpreparing
    exact ⟨register, value, hregister, rfl⟩
  | paused => trivial
  | reported event => exact h

theorem and_or_right (a b mask : UInt8) : (a ||| b) &&& mask = (a &&& mask) ||| (b &&& mask) :=
  UInt8.toBitVec_inj.mp BitVec.and_or_distrib_right

/-- A write of the configuration: to the control area, and not of a mode other than sleep, so that
it starts no measurement. -/
def RegisterWrite.Asleep (w : RegisterWrite) : Prop :=
  0x5A ≤ w.register ∧ (w.register = Register.measurementControl → w.value &&& 0x03 = 0)

/-- A write to the control area, beside the register of the mode. -/
def RegisterWrite.Beside (w : RegisterWrite) : Prop :=
  Control w.register ∧ w.register ≠ Register.measurementControl

theorem RegisterWrite.Beside.of {register : UInt8}
    (h : Control register ∧ register ≠ Register.measurementControl) (value : UInt8) :
    Beside ⟨register, value⟩ :=
  h

/-- The transfers of a set-up, in more detail than `Preparing` gives: a reset, writes of the
configuration, and reads. -/
inductive SetupTransfer : Transfer → Prop where
  | reset : SetupTransfer (.write [Register.softReset, softResetCommand])
  | configure (w : RegisterWrite) (hcontrol : Control w.register) (hasleep : w.Asleep) :
    SetupTransfer (.write [w.register, w.value])
  | read (register : UInt8) (count : Nat) (hregister : register ≠ Register.fields) :
    SetupTransfer (.writeRead [register] count)

theorem SetupTransfer.preparing {transfer : Transfer} (h : SetupTransfer transfer) :
    Preparing transfer := by
  cases h with
  | reset => exact ⟨_, _, rfl, by decide, by decide⟩
  | configure w hcontrol hasleep => exact ⟨_, _, rfl, hasleep⟩
  | read register count hregister => exact fun hfields => hregister (List.cons.inj hfields).1

/-- The same as `SetsUp`, with the more detailed kind of transfer, which says what a write may
write. -/
def Installs (address : UInt8) : Action Event → Prop
  | .exchanged e => e.address = address ∧ SetupTransfer e.transfer
  | .paused _ => True
  | .reported event => event.sensor? = some .bme68x

theorem Installs.setsUp {address : UInt8} {action : Action Event} (h : Installs address action) :
    SetsUp address action := by
  cases action with
  | exchanged e => exact ⟨h.1, h.2.preparing⟩
  | paused => trivial
  | reported event => exact h

namespace Driver

/-- A call on the driver, without the answer of a set-up, so that both calls have one type. -/
def step (d : Driver) : Call → SensorM Driver
  | .init now => Prod.snd <$> d.init now
  | .update now => d.update now

/-- The gate of the present phase is open, so that an update does something on the bus. -/
def due (d : Driver) (now : Micros) : Bool :=
  match d.phase with
  | .idle => false
  | .waitingForInterval => d.timer.intervalElapsed now
  | .waitingForConversion _ => d.timer.waited now d.settings.conversionTime

/-- The fields that a burst read answers with: one in forced mode and three in parallel mode. -/
abbrev Burst (d : Driver) : Type :=
  Vector UInt8 (fieldLength * d.settings.mode.fieldCount)

def fieldsOf (d : Driver) (bytes : d.Burst) : List RawField :=
  burstFields bytes d.variant

/-- The drivers that a set-up can leave. Even one that fails may have learnt the variant and the
calibration; timer and phase are only changed by a success. -/
inductive Init (d : Driver) (now : Micros) : Except SensorError Unit × Driver → Prop where
  | failed (variant : Variant) (calibration : Calibration) (error : SensorError) :
    Init d now (.error error, { d with variant := variant, calibration := calibration })
  | ready (variant : Variant) (calibration : Calibration) :
    Init d now (.ok (), { d with variant := variant
                                 calibration := calibration
                                 timer := d.timer.beginCycle now
                                 phase := .waitingForInterval })

/-- The outcomes of an update with the exchanges and reports that belong to each. A failure of any
kind ends the cycle and keeps the readings. -/
inductive Update (d : Driver) (now : Micros) : List (Action Event) → Driver → Prop where
  | rested (hdue : d.due now = false) : Update d now [] d
  | started (hphase : d.phase = .waitingForInterval) (hdue : d.due now = true) :
    Update d now
      [.exchanged (.wrote d.address [Register.measurementControl,
        d.settings.measurementControl d.settings.mode.bits])]
      { d with timer := d.timer.beginCycle now
               phase := .waitingForConversion .measurement }
  | startRefused (hphase : d.phase = .waitingForInterval) (hdue : d.due now = true)
      (fault : Fault) :
    Update d now
      [.exchanged (.failed d.address (.write [Register.measurementControl,
          d.settings.measurementControl d.settings.mode.bits]) fault),
        .reported (.cycleAbandoned .bme68x (failure "trigger measurement" fault))]
      { d with timer := d.timer.beginCycle now
               phase := .waitingForInterval }
  | unread (stage : Stage) (hphase : d.phase = .waitingForConversion stage)
      (hdue : d.due now = true) (fault : Fault) :
    Update d now
      [.exchanged (.failed d.address (.writeRead [Register.fields]
          (fieldLength * d.settings.mode.fieldCount)) fault),
        .reported (.cycleAbandoned .bme68x (failure "read fields" fault))]
      { d with phase := .waitingForInterval }
  | nothingNew (stage : Stage) (hphase : d.phase = .waitingForConversion stage)
      (hdue : d.due now = true) (bytes : d.Burst) (hfields : d.newest? (d.fieldsOf bytes) = none) :
    Update d now
      (.exchanged (.fetched d.address Register.fields bytes) ::
        ((d.skipped (d.fieldsOf bytes)).map .reported ++ [.reported (.nothingNew .bme68x)]))
      { d with phase := .waitingForInterval }
  | measured (stage : Stage) (hphase : d.phase = .waitingForConversion stage)
      (hdue : d.due now = true) (bytes : d.Burst) (reading : Reading)
      (hfields : d.newest? (d.fieldsOf bytes) = some reading) :
    Update d now
      (.exchanged (.fetched d.address Register.fields bytes) ::
        ((d.skipped (d.fieldsOf bytes)).map .reported ++ [.reported (.bme68xMeasured reading)]))
      { d with phase := .waitingForInterval
               timer := d.timer.recordSuccess now
               latest := some reading }

def Step (d : Driver) : Call → List (Action Event) → Driver → Prop
  | .init now => fun _ d' => ∃ result, d.Init now (result, d')
  | .update now => d.Update now

theorem init_always (d : Driver) (now : Micros) :
    (d.init now).Always fun _ outcome => d.Init now outcome := by
  refine .after _ fun identified => ?_
  cases identified with
  | error error => exact .failed d.variant d.calibration error
  | ok variant =>
    refine .after _ fun calibrated => ?_
    cases calibrated with
    | error error => exact .failed variant d.calibration error
    | ok calibration =>
      refine .after _ fun written => ?_
      cases written with
      | error error => exact .failed variant calibration error
      | ok _ => exact .ready variant calibration

theorem collect_always (d : Driver) (now : Micros) (stage : Stage)
    (hphase : d.phase = .waitingForConversion stage) (hdue : d.due now = true) :
    (d.collect now).Always (d.Update now) := by
  rw [collect, BusM.always_bind, Device.always_readRegister]
  constructor
  · intro bytes
    simp only [accept, BusM.always_bind, BusM.always_logAll]
    cases hfields : d.newest? (burstFields bytes d.variant) with
    | none => exact .nothingNew stage hphase hdue bytes hfields
    | some reading => exact .measured stage hphase hdue bytes reading hfields
  · intro fault
    exact .unread stage hphase hdue fault

theorem update_always (d : Driver) (now : Micros) : (d.update now).Always (d.Update now) := by
  unfold update
  cases hphase : d.phase with
  | idle => exact .rested (by simp [due, hphase])
  | waitingForInterval =>
    by_cases helapsed : d.timer.intervalElapsed now
    · have hdue : d.due now = true := by simp [due, hphase, helapsed]
      simp only [helapsed, if_true]
      rw [trigger, BusM.always_bind, Device.writeRegister, Device.always_write]
      constructor
      · exact .started hphase hdue
      · intro fault
        exact .startRefused hphase hdue fault
    · simp only [helapsed]
      exact .rested (by simp [due, hphase, helapsed])
  | waitingForConversion stage =>
    by_cases hwaited : d.timer.waited now d.settings.conversionTime
    · simp only [hwaited, if_true]
      exact d.collect_always now stage hphase (by simp [due, hphase, hwaited])
    · simp only [hwaited]
      exact .rested (by simp [due, hphase, hwaited])

/-- Every call has one of the listed outcomes, whatever the bus answers. -/
theorem step_always (d : Driver) (c : Call) : (d.step c).Always (d.Step c) := by
  cases c with
  | init now => exact (d.init_always now).snd
  | update now => exact d.update_always now

theorem Init.address_eq {d d' : Driver} {now : Micros} {result : Except SensorError Unit}
    (h : d.Init now (result, d')) : d'.address = d.address := by
  cases h <;> rfl

theorem Update.address_eq {d d' : Driver} {now : Micros} {actions : List (Action Event)}
    (h : d.Update now actions d') : d'.address = d.address := by
  cases h <;> rfl

theorem does_writeRegister {address register : UInt8} (hregister : 0x5A ≤ register)
    (value : UInt8) : (Device.writeRegister address register value).Does (Proper address) :=
  fun _ => ⟨⟨rfl, fun _ hbytes => ⟨register, value, hregister, (Transfer.write.inj hbytes).symm⟩⟩,
    trivial⟩

theorem does_readRegister (address register : UInt8) (count : Nat) :
    (Device.readRegister address register count).Does (Proper address) :=
  fun _ => ⟨⟨rfl, fun _ hbytes => Transfer.noConfusion hbytes⟩, trivial⟩

theorem installs_readRegister {register : UInt8} (hregister : register ≠ Register.fields)
    (address : UInt8) (count : Nat) :
    (Device.readRegister address register count).Does (Installs address) :=
  fun _ => ⟨⟨rfl, .read register count hregister⟩, trivial⟩

theorem installs_readByte {register : UInt8} (hregister : register ≠ Register.fields)
    (address : UInt8) : (Device.readByte address register).Does (Installs address) :=
  (installs_readRegister hregister address 1).bind fun _ => trivial

theorem installs_identify (address : UInt8) : (identify address).run.Does (Installs address) := by
  have hreset : (Device.writeRegister address Register.softReset softResetCommand).Does
      (Installs address) := fun _ => ⟨⟨rfl, .reset⟩, trivial⟩
  apply does_setup_bind (does_attempt hreset _)
  intro _
  apply does_setup_bind (does_settle trivial)
  intro _
  apply does_setup_bind (does_attempt (installs_readByte (by decide) _) _)
  intro found
  by_cases hfound : found = chipId
  · simp only [hfound, ne_eq, not_true_eq_false, if_false]
    apply does_setup_bind (does_attempt (installs_readByte (by decide) _) _)
    intro _
    trivial
  · simp only [hfound, ne_eq, not_false_eq_true, if_true]
    trivial

theorem installs_readCalibration (address : UInt8) :
    (readCalibration address).run.Does (Installs address) := by
  apply does_setup_bind (does_attempt (installs_readRegister (by decide) _ _) _)
  intro _
  apply does_setup_bind (does_attempt (installs_readRegister (by decide) _ _) _)
  intro _
  apply does_setup_bind (does_attempt (installs_readRegister (by decide) _ _) _)
  intro _
  trivial

theorem installs_writeAll (address : UInt8) {writes : List RegisterWrite}
    (hwrites : ∀ w ∈ writes, Control w.register ∧ w.Asleep) :
    (writeAll address writes).run.Does (Installs address) := by
  induction writes with
  | nil => trivial
  | cons w rest ih =>
    obtain ⟨hcontrol, hasleep⟩ := hwrites w List.mem_cons_self
    have hwrite : (Device.writeRegister address w.register w.value).Does (Installs address) :=
      fun _ => ⟨⟨rfl, .configure w hcontrol hasleep⟩, trivial⟩
    apply does_setup_bind (does_attempt hwrite _)
    intro _
    exact ih fun w' hw' => hwrites w' (List.mem_cons_of_mem _ hw')

theorem length_programmedSteps_le (s : Settings) :
    (programmedSteps s).length ≤ maxHeaterSteps := by
  unfold programmedSteps
  cases s.mode with
  | forced => exact Nat.le_trans (List.length_take_le' _ _) s.heater.length_steps_le
  | parallel => exact s.heater.length_steps_le

/-- The heater profile is short enough to stay inside its two banks of registers. -/
theorem beside_of_mem_stepWrites {s : Settings} {c : Calibration} {w : RegisterWrite}
    (hw : w ∈ stepWrites s c) : w.Beside := by
  obtain ⟨⟨step, i⟩, hstep, hw⟩ := List.mem_flatMap.mp hw
  have hi : i < (programmedSteps s).length := by
    simpa using (List.mem_zipIdx hstep).2.1
  have hbank : i < 10 := Nat.lt_of_lt_of_le hi (length_programmedSteps_le s)
  have hrange : 0x5A ≤ w.register.toNat ∧ w.register.toNat < 0x6E := by
    simp only [List.mem_cons, List.not_mem_nil, or_false] at hw
    rcases hw with rfl | rfl
    · simp [Register.heaterResistance]
      omega
    · simp [Register.gasWait]
      omega
  have hlimit : (0x75 : UInt8).toNat = 117 := rfl
  refine ⟨⟨UInt8.le_iff_toNat_le.mpr hrange.1, UInt8.le_iff_toNat_le.mpr (by omega)⟩, ?_⟩
  · intro hcontrol
    rw [hcontrol] at hrange
    exact absurd hrange.2 (by decide)

theorem beside_of_mem_sharedWrites {s : Settings} {w : RegisterWrite}
    (hw : w ∈ sharedWrites s) : w.Beside := by
  unfold sharedWrites at hw
  cases hmode : s.mode with
  | forced => simp [hmode] at hw
  | parallel =>
    obtain rfl : w = _ := by simpa [hmode] using hw
    exact .of (by decide) _

/-- Oversampling stands above the two bits of the mode and does not disturb them. -/
theorem mode_measurementControl (s : Settings) (mode : UInt8) :
    s.measurementControl mode &&& 0x03 = mode &&& 0x03 := by
  have hcodes : (s.temperature.code <<< 5 ||| s.pressure.code <<< 2) &&& 0x03 = 0 := by
    cases s.temperature <;> cases s.pressure <;> rfl
  rw [Settings.measurementControl, and_or_right, hcodes, UInt8.zero_or]

theorem measuring_mode (s : Settings) : s.measurementControl s.mode.bits &&& 0x03 ≠ 0 := by
  rw [mode_measurementControl]
  cases s.mode <;> decide

/-- The mode is written once, as sleep; all other writes go to other control registers. -/
theorem mem_configuration {s : Settings} {variant : Variant} {c : Calibration}
    {w : RegisterWrite} (hw : w ∈ configuration s variant c) :
    w = ⟨Register.measurementControl, s.measurementControl 0⟩ ∨ w.Beside := by
  rcases List.mem_append.mp hw with hmeasurement | hheater
  · simp only [measurementWrites, List.mem_cons, List.not_mem_nil, or_false] at hmeasurement
    rcases hmeasurement with rfl | rfl | rfl
    · exact .inr (.of (by decide) _)
    · exact .inr (.of (by decide) _)
    · exact .inl rfl
  · right
    by_cases hactive : s.heater.active
    · rw [if_pos hactive] at hheater
      simp only [heaterOnWrites, List.mem_append, List.mem_cons, List.not_mem_nil,
        or_false] at hheater
      rcases hheater with (hstep | hshared) | rfl | rfl
      · exact beside_of_mem_stepWrites hstep
      · exact beside_of_mem_sharedWrites hshared
      all_goals exact .of (by decide) _
    · rw [if_neg hactive] at hheater
      simp only [heaterOffWrites, List.mem_cons, List.not_mem_nil, or_false] at hheater
      rcases hheater with rfl | rfl
      all_goals exact .of (by decide) _

theorem asleep_of_mem_configuration {s : Settings} {variant : Variant} {c : Calibration}
    {w : RegisterWrite} (hw : w ∈ configuration s variant c) : Control w.register ∧ w.Asleep := by
  rcases mem_configuration hw with rfl | ⟨hcontrol, hbeside⟩
  · have hcontrol : Control Register.measurementControl := by decide
    exact ⟨hcontrol, hcontrol.1, fun _ => mode_measurementControl s 0⟩
  · exact ⟨hcontrol, hcontrol.1, fun h => absurd h hbeside⟩

/-- Whatever a set-up sends is a reset, a write of the configuration, or a read, also if it fails on
the way. -/
theorem init_installs (d : Driver) (now : Micros) : (d.init now).Does (Installs d.address) := by
  apply (installs_identify d.address).bind
  intro identified
  cases identified with
  | error error => trivial
  | ok variant =>
    apply (installs_readCalibration d.address).bind
    intro calibrated
    cases calibrated with
    | error error => trivial
    | ok calibration =>
      apply (installs_writeAll d.address fun w hw => asleep_of_mem_configuration hw).bind
      intro written
      cases written with
      | error error => trivial
      | ok _ => exact ⟨rfl, trivial⟩

theorem init_setsUp (d : Driver) (now : Micros) : (d.init now).Does (SetsUp d.address) :=
  (d.init_installs now).mono fun _ h => h.setsUp

theorem init_proper (d : Driver) (now : Micros) : (d.init now).Does (Proper d.address) :=
  (d.init_setsUp now).mono fun _ h => h.proper

theorem trigger_proper (d : Driver) : d.trigger.Does (Proper d.address) := by
  apply (does_writeRegister (by decide) _).bind
  intro response
  cases response with
  | error fault => exact ⟨rfl, trivial⟩
  | ok _ => trivial

theorem accept_proper (d : Driver) (fields : List RawField) (now : Micros) :
    (d.accept fields now).Does (Proper d.address) := by
  have hskipped : ∀ event ∈ d.skipped fields, Proper d.address (.reported event) := by
    intro event hevent
    obtain ⟨field, _, rfl⟩ := List.mem_map.mp hevent
    rfl
  apply (BusM.does_logAll hskipped).bind
  intro _
  cases d.newest? fields with
  | none => exact ⟨rfl, trivial⟩
  | some reading => exact ⟨rfl, trivial⟩

theorem collect_proper (d : Driver) (now : Micros) :
    (d.collect now).Does (Proper d.address) := by
  apply (does_readRegister _ _ _).bind
  intro response
  cases response with
  | error fault => exact ⟨rfl, trivial⟩
  | ok bytes => exact d.accept_proper _ now

theorem update_proper (d : Driver) (now : Micros) : (d.update now).Does (Proper d.address) := by
  unfold update
  cases d.phase with
  | idle => trivial
  | waitingForInterval =>
    by_cases helapsed : d.timer.intervalElapsed now
    · simp only [helapsed, if_true]
      exact trigger_proper { d with timer := d.timer.beginCycle now }
    · simp only [helapsed]
      trivial
  | waitingForConversion stage =>
    by_cases hwaited : d.timer.waited now d.settings.conversionTime
    · simp only [hwaited, if_true]
      exact d.collect_proper now
    · simp only [hwaited]
      trivial

theorem init_does (d : Driver) (now : Micros) : (d.init now).Does (·.To (· = d.address)) :=
  (d.init_proper now).mono fun _ h => h.addressed

theorem update_does (d : Driver) (now : Micros) :
    (d.update now).Does (·.To (· = d.address)) :=
  (d.update_proper now).mono fun _ h => h.addressed

end Driver

end AirStation.Bme68x
