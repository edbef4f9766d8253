import AirStation.Proofs.Bme68x.Registers

/-!
What a set-up learns about its part. It reads the variant and the trimming off registers that
neither a reset nor the configuration touches, so what it has learnt stays true of the device. A
set-up that succeeds has learnt both; one that fails has kept what it knew, or learnt better.

`Learns` lists these possibilities with what has been read for each of them. That the values are
those of the device needs more: the answers have to be genuine, and nothing the set-up has sent
before may have changed the registers. The list of what a set-up sends supplies the second.
-/

namespace AirStation.Bme68x

/-- No transfer of a set-up changes a register outside the control area, or the staged fields. -/
theorem SetupTransfer.keeps {transfer : Transfer} (h : SetupTransfer transfer) (m : Model) :
    (Responder.serve m transfer).2.memory = m.memory := by
  cases h with
  | reset => exact (congrArg Model.memory m.receive_reset).trans m.memory_reset
  | configure w hcontrol hasleep =>
    have hreceive := m.receive_configure hcontrol hasleep.2
    exact (congrArg Model.memory hreceive).trans (m.memory_setRegister hcontrol w.value)
  | read register count hregister => rfl

theorem Installs.keeps {address : UInt8} {action : Action Event} (h : Installs address action)
    (other : UInt8) : action.Keeps other Model.memory := by
  cases action with
  | exchanged e => exact Action.keeps_of_serve h.2.keeps
  | paused | reported => trivial

/-- The variant is one that the device has named during these actions. -/
def Identified (address : UInt8) (actions : List (Action Event)) (variant : Variant) : Prop :=
  ∃ id : Vector UInt8 1, .exchanged (.fetched address Register.variantId id) ∈ actions ∧
    variant = .ofId (id.get 0)

/-- The trimming is made of the three blocks that the device has sent during these actions. -/
def Calibrated (address : UInt8) (actions : List (Action Event)) (calibration : Calibration) :
    Prop :=
  ∃ (first : Vector UInt8 23) (second : Vector UInt8 14) (third : Vector UInt8 5),
    .exchanged (.fetched address 0x8A first) ∈ actions ∧
    .exchanged (.fetched address 0xE1 second) ∈ actions ∧
    .exchanged (.fetched address 0x00 third) ∈ actions ∧
    calibration = .ofCoefficients (first ++ second ++ third)

section Answers

variable {address : UInt8} {actions later : List (Action Event)} {variant : Variant}
  {calibration : Calibration}

theorem Identified.mono (h : Identified address actions variant)
    (hsubset : actions ⊆ later) : Identified address later variant := by
  obtain ⟨id, hid, hvariant⟩ := h
  exact ⟨id, hsubset hid, hvariant⟩

theorem Calibrated.mono (h : Calibrated address actions calibration)
    (hsubset : actions ⊆ later) : Calibrated address later calibration := by
  obtain ⟨first, second, third, hfirst, hsecond, hthird, hcalibration⟩ := h
  exact ⟨first, second, third, hsubset hfirst, hsubset hsecond, hsubset hthird, hcalibration⟩

/-- A read that completes has done a single exchange, which brought the bytes. -/
theorem completes_readRegister (failure : Fault → SensorError) (address register : UInt8)
    (count : Nat) :
    Completes (attempt failure (Device.readRegister address register count)) fun actions bytes =>
      actions = [.exchanged (.fetched address register bytes)] := by
  apply completes_attempt
  rintro response bytes rfl
  rfl

theorem completes_readByte (failure : Fault → SensorError) (address register : UInt8) :
    Completes (attempt failure (Device.readByte address register)) fun actions value =>
      ∃ bytes : Vector UInt8 1,
        actions = [.exchanged (.fetched address register bytes)] ∧ value = bytes.get 0 := by
  apply completes_attempt
  rintro response value hvalue
  cases response with
  | error fault => nomatch hvalue
  | ok bytes => exact ⟨bytes, rfl, (Except.ok.inj hvalue).symm⟩

theorem completes_identify (address : UInt8) :
    Completes (Driver.identify address) (Identified address) := by
  refine Completes.after _ fun _ _ => Completes.after _ fun _ _ => ?_
  refine Completes.after _ fun _ found => ?_
  by_cases hfound : found = chipId
  · simp only [hfound, ne_eq, not_true_eq_false, if_false]
    refine (completes_readByte _ address Register.variantId).bind ?_
    rintro _ _ ⟨id, rfl, rfl⟩
    refine (completes_pure _ _).mpr ⟨id, ?_, rfl⟩
    simp
  · simp only [hfound, ne_eq, not_false_eq_true, if_true]
    exact completes_throw _ _

theorem completes_readCalibration (address : UInt8) :
    Completes (Driver.readCalibration address) (Calibrated address) := by
  refine (completes_readRegister _ address 0x8A 23).bind ?_
  rintro _ first rfl
  refine (completes_readRegister _ address 0xE1 14).bind ?_
  rintro _ second rfl
  refine (completes_readRegister _ address 0x00 5).bind ?_
  rintro _ third rfl
  refine (completes_pure _ _).mpr ⟨first, second, third, ?_, ?_, ?_, rfl⟩
  all_goals simp

end Answers

namespace Driver

/-- How a set-up leaves the driver, by how far it has got: with what it knew, with the variant of
the part, or with variant and calibration. -/
inductive Learns (d : Driver) (now : Micros) (actions : List (Action Event)) :
    Except SensorError Unit × Driver → Prop where
  | nothing (error : SensorError) : Learns d now actions (.error error, d)
  | identified (error : SensorError) {variant : Variant}
    (hvariant : Identified d.address actions variant) :
    Learns d now actions (.error error, { d with variant := variant })
  | calibrated (error : SensorError) {variant : Variant} {calibration : Calibration}
    (hvariant : Identified d.address actions variant)
    (hcalibration : Calibrated d.address actions calibration) :
    Learns d now actions
      (.error error, { d with variant := variant, calibration := calibration })
  | ready {variant : Variant} {calibration : Calibration}
    (hvariant : Identified d.address actions variant)
    (hcalibration : Calibrated d.address actions calibration) :
    Learns d now actions (.ok (), { d with variant := variant
                                           calibration := calibration
                                           timer := d.timer.beginCycle now
                                           phase := .waitingForInterval })

/-- Every set-up ends in one of these ways, over every bus. -/
theorem init_learns (d : Driver) (now : Micros) : (d.init now).Always (d.Learns now) := by
  apply BusM.Always.bind (completes_identify d.address)
  intro asked identified hidentified
  cases identified with
  | error error => exact .nothing error
  | ok variant =>
    have hvariant := hidentified variant rfl
    apply BusM.Always.bind (completes_readCalibration d.address)
    intro read calibrated hcalibrated
    cases calibrated with
    | error error => exact .identified error (hvariant.mono (List.subset_append_left asked _))
    | ok calibration =>
      have hcalibration := hcalibrated calibration rfl
      refine BusM.Always.bind (.of_forall _ fun _ _ => trivial) fun written result _ => ?_
      have hvariant (rest) : Identified d.address (asked ++ (read ++ rest)) variant :=
        hvariant.mono (by simp)
      have hcalibration (rest) : Calibrated d.address (asked ++ (read ++ rest)) calibration :=
        hcalibration.mono (by simp)
      cases result with
      | error error => exact .calibrated error (hvariant _) (hcalibration _)
      | ok _ => exact .ready (hvariant _) (hcalibration _)

end Driver

section Device

variable {address : UInt8} {actions : List (Action Event)} {m : Model}

/-- Registers of the part are read as they are, however far the set-up has got, because nothing
before the read has changed them. -/
theorem eq_block_of_fetched {start : UInt8} {count : Nat} {bytes : Vector UInt8 count}
    (hinstalls : ∀ action ∈ actions, Installs address action)
    (hgenuine : AllGenuine address m (actions.filterMap Action.exchange?))
    (hblock : ∀ i < count, Factory (start + UInt8.ofNat i))
    (hbytes : .exchanged (.fetched address start bytes) ∈ actions) :
    bytes = m.block start count := by
  have hkeeps : ∀ action ∈ actions, action.Keeps address Model.memory :=
    fun action haction => (hinstalls action haction).keeps address
  obtain ⟨m', hmemory, hanswer⟩ := hgenuine.of_mem hkeeps hbytes
  obtain rfl : bytes = m'.block start count := by simpa using hanswer
  refine Model.block_congr (fun register hregister => ?_) hblock
  exact Model.register_of_memory hmemory (Model.not_control_of_factory hregister)

theorem Identified.eq {variant : Variant} (h : Identified address actions variant)
    (hinstalls : ∀ action ∈ actions, Installs address action)
    (hgenuine : AllGenuine address m (actions.filterMap Action.exchange?)) :
    variant = m.variant := by
  obtain ⟨id, hid, rfl⟩ := h
  rw [eq_block_of_fetched hinstalls hgenuine (by decide) hid]
  rfl

theorem Calibrated.eq {calibration : Calibration} (h : Calibrated address actions calibration)
    (hinstalls : ∀ action ∈ actions, Installs address action)
    (hgenuine : AllGenuine address m (actions.filterMap Action.exchange?)) :
    calibration = m.trimming := by
  obtain ⟨first, second, third, hfirst, hsecond, hthird, rfl⟩ := h
  rw [Model.trimming, eq_block_of_fetched hinstalls hgenuine (by decide) hfirst,
    eq_block_of_fetched hinstalls hgenuine (by decide) hsecond,
    eq_block_of_fetched hinstalls hgenuine (by decide) hthird]

end Device

namespace Driver

/-- The driver takes the device for what it is, so it will make the right readings of its fields. -/
def Knows (d : Driver) (m : Model) : Prop :=
  (d.variant, d.calibration) = m.part

variable {d d' : Driver} {now : Micros} {actions : List (Action Event)} {m : Model}
  {result : Except SensorError Unit}

/-- A driver that knew its part still knows it after a set-up, and one that did not knows it after a
success. -/
theorem Learns.knows (h : d.Learns now actions (result, d'))
    (hinstalls : ∀ action ∈ actions, Installs d.address action)
    (hgenuine : AllGenuine d.address m (actions.filterMap Action.exchange?))
    (hknows : d.Knows m ∨ result = .ok ()) : d'.Knows m := by
  cases h with
  | nothing error => simpa using hknows
  | identified error hvariant =>
    have hcalibration : d.calibration = m.trimming :=
      congrArg Prod.snd (hknows.resolve_right (by simp))
    exact Prod.ext (hvariant.eq hinstalls hgenuine) hcalibration
  | calibrated error hvariant hcalibration | ready hvariant hcalibration =>
    exact Prod.ext (hvariant.eq hinstalls hgenuine) (hcalibration.eq hinstalls hgenuine)

end Driver

end AirStation.Bme68x
