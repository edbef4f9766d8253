import AirStation.Proofs.Simulation.OnSchedule
import Mathlib.Tactic.MkIffOfInductiveProp

/-!
How a simulation starts. The station is set up on a bus with all three devices, and its baseline is
restored (`started`). From there every tick is on schedule (`onSchedule_after`).

What the set-up leaves is computed once, for what can be decided by evaluation (`start_settled`).
The rest, above all what the BME68x has learnt about its part, follows from the lemmas about its
set-up. The two runs have names of their own, so that no later proof evaluates them again.
-/

namespace AirStation

namespace Simulation

/-- The set-up in front of fresh devices, at time zero and under the first weather. -/
def installation : Run SimulatedBus Event (Except SensorError Unit × Station) :=
  ((Station.ofConfig .standard).init (.ofMillis 0)).run (Weather.apply 0 fullBus)

/-- The baseline of an earlier run is written back, to the station that the set-up has left. -/
def restoration : Run SimulatedBus Event (Except SensorError Unit × Station) :=
  (installation.value.2.restoreBaseline (.ofBaseline 0x847B)).run installation.bus

theorem installation_eq : ((Station.ofConfig .standard).init (.ofMillis 0)).run
    (Weather.apply 0 fullBus) = installation := rfl

theorem restoration_eq : (installation.value.2.restoreBaseline (.ofBaseline 0x847B)).run
    installation.bus = restoration := rfl

/-- Everything has gone well, and all three sensors wait for their first interval without a reading
or a pending climate. -/
@[mk_iff]
structure Settled (station : Station) (bus : SimulatedBus) : Prop where
  htu21d : station.htu21d.map (fun d => (d.phase, d.timer, d.latest.isSome)) =
    some (.waitingForInterval, ⟨1000000, 0, 0, none⟩, false)
  ccs811 : station.ccs811.map (fun d => (d.phase, d.timer, d.latest.isSome)) =
    some (.waitingForInterval, ⟨1000000, 0, 0, none⟩, false)
  bme68x : station.bme68x.map (fun d => (d.phase, d.timer, d.latest.isSome)) =
    some (.waitingForInterval, ⟨3000000, 0, 0, none⟩, false)
  pending : station.ccs811.map (fun d => (d.address, d.pendingEnvironment)) = some (0x5A, none)
  settings : station.bme68x.map (fun d => (d.address, d.settings)) = some (0x76, .standard)
  compensation : station.environmentCompensation = true ∧ station.compensatedFrom = none
  intact : bus.htu21d.map (·.corrupt) = some false
  healthy : bus.ccs811.map (fun m => (m.address, m.errorId)) = some (0x5A, 0)
  calm : bus.pendingFailures = [] ∧ bus.offline = []
  transactions : bus.transactions = 18

/-- The set-up and the restored baseline both succeed without a complaint, and leave the station
settled. Both are runs on fixed input, so this is a computation. -/
theorem start_settled :
    (installation.value.1 = .ok () ∧ restoration.value.1 = .ok () ∧
      (installation.events ++ restoration.events).all (!·.complains) = true) ∧
    Settled restoration.value.2 restoration.bus := by
  rw [settled_iff]
  decide +kernel

theorem setUp_of_ok {s : Simulation}
    {run : Run SimulatedBus Event (Except SensorError Unit × Station)}
    (hrun : (s.station.init (.ofMillis s.now)).run s.bus = run) (hok : run.value.1 = .ok ()) :
    s.setUp = ({ s with station := run.value.2, bus := run.bus }, run.events.map .event) := by
  subst hrun
  simp only [setUp, perform, hok]

theorem restore_of_ok {s : Simulation}
    {run : Run SimulatedBus Event (Except SensorError Unit × Station)}
    (hrun : (s.station.restoreBaseline (.ofBaseline 0x847B)).run s.bus = run)
    (hok : run.value.1 = .ok ()) :
    s.restore = ({ s with station := run.value.2, bus := run.bus }, run.events.map .event) := by
  have hdecode : BaselineRecord.decode savedBaseline = .ok (.ofBaseline 0x847B) := by
    decide +kernel
  subst hrun
  simp only [restore, hdecode, perform, hok]

/-- The start consists of these two runs and leaves what the second one leaves. Its last output
repeats the options. -/
structure Started (options : Options)
    (first second : Run SimulatedBus Event (Except SensorError Unit × Station)) : Prop where
  options_eq : (start options).1.options = options
  now_eq : (start options).1.now = 0
  station_eq : (start options).1.station = second.value.2
  bus_eq : (start options).1.bus = second.bus
  outputs_eq : (start options).2 =
    (first.events ++ second.events).map .event ++ [.started options]

section Started

variable {first second : Run SimulatedBus Event (Except SensorError Unit × Station)}
  (hfirst : ((Station.ofConfig .standard).init (.ofMillis 0)).run (Weather.apply 0 fullBus) = first)
  (hsecond : (first.value.2.restoreBaseline (.ofBaseline 0x847B)).run first.bus = second)

include hfirst hsecond

/-- Where both runs succeed, the start is their composition, and nothing but the options depends on
the options. -/
theorem start_of_ok (options : Options) (hfirstOk : first.value.1 = .ok ())
    (hsecondOk : second.value.1 = .ok ()) :
    start options =
      ({ create options with station := second.value.2, bus := second.bus },
        (first.events ++ second.events).map .event ++ [.started options]) := by
  have hcreated : ((create options).station.init (.ofMillis (create options).now)).run
    (create options).bus = first := hfirst
  unfold start
  generalize create options = s at hcreated ⊢
  have hrestore : ({ s with station := first.value.2, bus := first.bus }).restore =
      ({ s with station := second.value.2, bus := second.bus }, second.events.map .event) :=
    restore_of_ok hsecond hsecondOk
  rw [setUp_of_ok hcreated hfirstOk]
  dsimp only
  rw [hrestore]
  dsimp only
  rw [List.map_append]

theorem started_of_ok {options : Options} (hfirstOk : first.value.1 = .ok ())
    (hsecondOk : second.value.1 = .ok ()) : Started options first second := by
  have hstart := start_of_ok hfirst hsecond options hfirstOk hsecondOk
  constructor <;> rw [hstart] <;> rfl

end Started

/-- The start of every simulation, whatever its options: its flaky device is still there. -/
theorem started (options : Options) : Started options installation restoration := by
  obtain ⟨⟨hinstalled, hrestored, -⟩, -⟩ := start_settled
  exact started_of_ok installation_eq restoration_eq hinstalled hrestored

def Devices.standard : Devices :=
  ⟨.standard, .standard, .standard⟩

theorem furnished_fullBus : fullBus.Furnished Devices.standard.htu21d Devices.standard.ccs811
    Devices.standard.bme68x where
  htu21d := rfl
  ccs811 := ⟨rfl, rfl, fun haddress => absurd haddress (by decide)⟩
  bme68x := ⟨rfl, rfl, fun haddress => absurd haddress (by decide), by
    rintro _ ⟨rfl⟩
    decide⟩
  calm := rfl

section SetUp

variable {s : Station} {now : Micros} {bus : SimulatedBus} {devices : Devices}

theorem run_initSensor {σ : Type} (init : σ → SensorM (Except SensorError Unit × σ)) (d : σ)
    (bus : SimulatedBus) :
    let run := (init d).run bus
    ((Station.initSensor init (some d)).run bus).value.2 = some run.value.2 ∧
      ((Station.initSensor init (some d)).run bus).bus = run.bus := by
  simp only [Station.initSensor, BusM.run_bind]
  obtain ⟨⟨result, d'⟩, bus', actions⟩ := (init d).run bus
  cases result <;> exact ⟨rfl, rfl⟩

/-- The set-up of the station is that of its sensors, one after another, and goes on when one of
them fails. -/
theorem run_init (s : Station) (now : Micros) (bus : SimulatedBus) :
    let first := (Station.initSensor (·.init now) s.htu21d).run bus
    let second := (Station.initSensor (·.init now) s.ccs811).run first.bus
    let third := (Station.initSensor (·.init now) s.bme68x).run second.bus
    ((s.init now).run bus).value.2.bme68x = third.value.2 ∧
      ((s.init now).run bus).bus = third.bus := by
  intro first second third
  simp only [Station.init, BusM.run_bind]
  cases first.value.1 <|> second.value.1 <|> third.value.1 with
  | none => exact ⟨rfl, rfl⟩
  | some error => exact ⟨rfl, rfl⟩

variable {d d' : Bme68x.Driver}

theorem ok_of_ready {actions : List (Action Event)} {outcome : Except SensorError Unit × _}
    (h : d.Learns now actions outcome) (hidle : d.phase = .idle)
    (hready : outcome.2.phase = .waitingForInterval) : outcome.1 = .ok () := by
  cases h with
  | ready => rfl
  | nothing | identified | calibrated => exact absurd (hidle.symm.trans hready) (by decide)

/-- A BME68x that is ready after its first set-up knows its part: it has read the calibration of the
device in front of it. -/
theorem supplied_of_ready (now : Micros) (devices : Devices)
    (hbus : bus.Furnished devices.htu21d devices.ccs811 devices.bme68x)
    (haddress : d.address = Bme68x.standardAddress) (hidle : d.phase = .idle) :
    let run := (d.init now).run bus
    ∃ bme, run.bus.Furnished devices.htu21d devices.ccs811 bme ∧
      (run.value.2.phase = .waitingForInterval →
        Bme68x.Driver.Supplied d.settings devices.bme68x.part ⟨devices.bme68x.staged, none⟩
          run.value.2 bme) := by
  have hdoes := d.init_does now
  rw [haddress] at hdoes
  obtain ⟨⟨-, hgenuine⟩, hbus⟩ := hbus.visit_bme68x hdoes
  have hlearns := (d.init_learns now).run bus
  have hinstalls := ((BusM.does_iff_always _ _).mp (d.init_installs now)).run bus
  generalize (d.init now).run bus = run at *
  rw [← haddress] at hgenuine hbus
  refine ⟨_, hbus, fun hready => ?_⟩
  have hsupplied := hlearns.supplied hinstalls hgenuine
    (.inr (ok_of_ready hlearns hidle hready)) (t := ⟨devices.bme68x.staged, none⟩)
    (fun stage hphase => by simp [hidle] at hphase) rfl
  rwa [Bme68x.Tray.foldl_exchanged_setup _ hinstalls] at hsupplied

theorem supplied_init (now : Micros)
    (hbus : bus.Furnished devices.htu21d devices.ccs811 devices.bme68x)
    (hccs : ∀ ccs, s.ccs811 = some ccs → ccs.address = Ccs811.standardAddress)
    (hbme : s.bme68x = some d) (haddress : d.address = Bme68x.standardAddress)
    (hidle : d.phase = .idle) :
    let run := (s.init now).run bus
    ∃ devices' : Devices,
      run.bus.Furnished devices'.htu21d devices'.ccs811 devices'.bme68x ∧
      ∀ d', run.value.2.bme68x = some d' → d'.phase = .waitingForInterval →
        Bme68x.Driver.Supplied d.settings devices.bme68x.part ⟨devices.bme68x.staged, none⟩ d'
          devices'.bme68x := by
  obtain ⟨hstation, hafter⟩ := run_init s now bus
  have hhtuDoes : (Station.initSensor (·.init now) s.htu21d).Does (·.To (· = Htu21d.address)) :=
    Station.initSensor_does (fun htu _ => htu.init_does now) fun _ => trivial
  have hccsDoes : (Station.initSensor (·.init now) s.ccs811).Does
      (·.To (· = Ccs811.standardAddress)) :=
    Station.initSensor_does (fun ccs hs => hccs ccs hs ▸ ccs.init_does now) fun _ => trivial
  obtain ⟨-, hbus⟩ := hbus.visit_htu21d hhtuDoes
  obtain ⟨-, hbus⟩ := hbus.visit_ccs811 hccsDoes
  rw [hbme] at hstation hafter
  obtain ⟨hdriver, hlast⟩ := run_initSensor (·.init now) d _
  obtain ⟨bme, hbus, hsupplied⟩ :=
    supplied_of_ready now ⟨_, _, devices.bme68x⟩ hbus haddress hidle
  rw [← hlast, ← hafter] at hbus
  refine ⟨⟨_, _, bme⟩, hbus, fun d' hd' hready => ?_⟩
  obtain rfl := Option.some.inj ((hstation.trans hdriver).symm.trans hd')
  exact hsupplied hready

end SetUp

section Start

variable {options : Options} {devices : Devices} {station : Station} {bus : SimulatedBus}

theorem waiting_of_settled {σ τ ρ : Type} {phase : σ → Phase τ} {timer : σ → PollTimer}
    {latest : σ → Option ρ} {sensor : Option σ} {d : σ} {settled : PollTimer}
    (h : sensor.map (fun d => (phase d, timer d, (latest d).isSome)) =
      some (.waitingForInterval, settled, false)) (hd : sensor = some d) :
    phase d = .waitingForInterval ∧ timer d = settled ∧ latest d = none := by
  subst hd
  simpa using h

theorem Settled.htu21d_scheduled (h : Settled station bus) {htu : Htu21d.Driver}
    (hhtu : station.htu21d = some htu) (hdevice : bus.htu21d = some devices.htu21d)
    (up : Nat → Bool) : htu.Scheduled up 0 devices.htu21d := by
  obtain ⟨hphase, htimer, hlatest⟩ := waiting_of_settled h.htu21d hhtu
  have hintact := h.intact
  rw [hdevice] at hintact
  have hfits : htu.timer.interval = instant 100 := by rw [htimer]; rfl
  refine ⟨.start (Htu21d.Driver.fits hfits) hphase ?_ hlatest ?_, fun hhalf => ?_,
    Option.some.inj hintact⟩
  · exact congrArg PollTimer.cycleStarted htimer
  · exact congrArg PollTimer.lastSuccess htimer
  · rw [hphase] at hhalf
    nomatch hhalf

theorem Settled.ccs811_scheduled (h : Settled station bus) {ccs : Ccs811.Driver}
    (hccs : station.ccs811 = some ccs) (hdevice : bus.ccs811 = some devices.ccs811)
    (up : Nat → Bool) : ccs.Scheduled up 0 devices.ccs811 := by
  obtain ⟨hphase, htimer, hlatest⟩ := waiting_of_settled h.ccs811 hccs
  have hhealthy := h.healthy
  rw [hdevice] at hhealthy
  have hfits : ccs.timer.interval = instant 100 := by rw [htimer]; rfl
  refine ⟨.start (Ccs811.Driver.fits hfits) hphase ?_ hlatest ?_,
    congrArg Prod.snd (Option.some.inj hhealthy), fun stage hwaiting => ?_⟩
  · exact congrArg PollTimer.cycleStarted htimer
  · exact congrArg PollTimer.lastSuccess htimer
  · rw [hphase] at hwaiting
    nomatch hwaiting

theorem Settled.bme68x_scheduled (h : Settled station bus) {bme : Bme68x.Driver}
    (hbme : station.bme68x = some bme) {part : Bme68x.Variant × Bme68x.Calibration}
    {t : Bme68x.Tray} (hsupplied : Bme68x.Driver.Supplied .standard part t bme devices.bme68x)
    (up : Nat → Bool) : bme.Scheduled up 0 devices.bme68x := by
  obtain ⟨hphase, htimer, hlatest⟩ := waiting_of_settled h.bme68x hbme
  have hfits : bme.timer.interval = instant 300 := by rw [htimer]; rfl
  refine ⟨.start (Bme68x.Driver.fits hfits hsupplied.settings_eq) hphase ?_ hlatest ?_,
    part, t, hsupplied, fun stage hwaiting => ?_⟩
  · exact congrArg PollTimer.cycleStarted htimer
  · exact congrArg PollTimer.lastSuccess htimer
  · rw [hphase] at hwaiting
    nomatch hwaiting

/-- Restoring the baseline is between the station and its CCS811. The BME68x and its device are as
the set-up has left them. -/
theorem Settled.restored {first second : Run SimulatedBus Event (Except SensorError Unit × Station)}
    {record : BaselineRecord}
    (hsecond : (first.value.2.restoreBaseline record).run first.bus = second)
    (h : Settled second.value.2 second.bus)
    (hbus : first.bus.Furnished devices.htu21d devices.ccs811 devices.bme68x) :
    second.value.2.bme68x = first.value.2.bme68x ∧
      ∃ ccs, second.bus.Furnished devices.htu21d ccs devices.bme68x := by
  have hrestore := (first.value.2.restoreBaseline_always record).run first.bus
  have hpending := h.pending
  obtain ⟨⟨answer, station⟩, bus, actions⟩ := second
  rw [hsecond] at hrestore
  cases hrestore with
  | absent hnone => simp [hnone] at hpending
  | present hccs hwritten =>
    rename_i ccs ccs' result
    have haddress : ccs.address = Ccs811.standardAddress :=
      hwritten.pendingEnvironment_eq.1.symm.trans (congrArg Prod.fst (Option.some.inj hpending))
    have hdoes : (first.value.2.restoreBaseline record).Does
        (·.To (· = Ccs811.standardAddress)) := by
      apply Station.restoreBaseline_does
      intro d hd
      obtain rfl := Option.some.inj (hccs.symm.trans hd)
      exact haddress ▸ ccs.writeBaseline_does record.baseline
    obtain ⟨-, hafter⟩ := hbus.visit_ccs811 hdoes
    rw [hsecond] at hafter
    exact ⟨rfl, _, hafter⟩

/-- A settled station that has just started is on schedule for the first tick. -/
theorem Settled.onSchedule
    {first second : Run SimulatedBus Event (Except SensorError Unit × Station)}
    {record : BaselineRecord}
    (hfirst : ((Station.ofConfig .standard).init (.ofMillis 0)).run (Weather.apply 0 fullBus) =
      first)
    (hsecond : (first.value.2.restoreBaseline record).run first.bus = second)
    (h : Settled second.value.2 second.bus) (hstarted : Started options first second) :
    ∃ crew devices, OnSchedule options 0 (start options).1 crew devices ∧
      (start options).1.bus.offline = silent options 0 := by
  obtain ⟨hoptions, hnow, hstation, hbus, -⟩ := hstarted
  generalize (start options).1 = s at *
  obtain ⟨htu, hhtu, -⟩ := Option.map_eq_some_iff.mp h.htu21d
  obtain ⟨ccs, hccs, hccsState⟩ := Option.map_eq_some_iff.mp h.pending
  obtain ⟨bme, hbme, hbmeState⟩ := Option.map_eq_some_iff.mp h.settings
  obtain ⟨hready, -⟩ := waiting_of_settled h.bme68x hbme
  obtain ⟨-, htimer, -⟩ := waiting_of_settled h.htu21d hhtu
  have hhanded : htu.timer.lastSuccess = none := congrArg PollTimer.lastSuccess htimer
  have hinit := supplied_init (s := .ofConfig .standard)
    (d := .create 0x76 (.ofMillis 3000) .standard) (.ofMillis 0)
    (furnished_weather furnished_fullBus 0) (by rintro _ ⟨rfl⟩; rfl) rfl rfl rfl
  rw [hfirst] at hinit
  obtain ⟨devices, hfurnished, hsupplied⟩ := hinit
  obtain ⟨hsame, model, hfurnished⟩ := h.restored hsecond hfurnished
  have hsupplied := hsupplied bme (hsame.symm.trans hbme) hready
  refine ⟨⟨htu, ccs, bme⟩, ⟨devices.htu21d, model, devices.bme68x⟩,
    ⟨hoptions, hnow, ?_, hbus ▸ hfurnished, ?_, ?_⟩, ?_⟩
  · exact ⟨hstation ▸ hhtu, hstation ▸ hccs, hstation ▸ hbme, hstation ▸ h.compensation.1,
      hstation ▸ h.compensation.2.trans hhanded.symm⟩
  · exact ⟨h.htu21d_scheduled hhtu hfurnished.htu21d _,
      h.ccs811_scheduled hccs hfurnished.ccs811.present _, h.bme68x_scheduled hbme hsupplied _,
      congrArg Prod.fst hccsState, congrArg Prod.fst hbmeState, congrArg Prod.snd hccsState,
      fun howed => nomatch howed⟩
  · rw [hbus, h.transactions]
    rfl
  · rw [hbus, h.calm.2]
    exact (if_neg (by decide)).symm

theorem onSchedule_start (options : Options) :
    ∃ crew devices, OnSchedule options 0 (start options).1 crew devices ∧
      (start options).1.bus.offline = silent options 0 :=
  start_settled.2.onSchedule installation_eq restoration_eq (started options)

/-- Every tick of every run is on schedule, with or without a flaky device. -/
theorem onSchedule_after (options : Options) (n : Nat) :
    ∃ crew devices, OnSchedule options n ((start options).1.after n) crew devices ∧
      ((start options).1.after n).bus.offline = silent options ((n - 1) / 100) := by
  obtain ⟨crew, devices, h, hoffline⟩ := onSchedule_start options
  exact h.after hoffline n

/-- A tick in the middle of a run: it is on schedule, the next one is too, and the poll between them
consists of three turns. -/
theorem tick_after (options : Options) (n : Nat) :
    ∃ crew crew' devices devices',
      OnSchedule options n ((start options).1.after n) crew devices ∧
      OnSchedule options (n + 1) ((start options).1.after (n + 1)) crew' devices' ∧
      crew.Turned options n crew' ((start options).1.after n).pollRun.actions := by
  obtain ⟨crew, devices, h, hoffline⟩ := onSchedule_after options n
  obtain ⟨crew', devices', h', -, hturned⟩ := h.tick hoffline
  exact ⟨crew, crew', devices, devices', h, h', hturned⟩

end Start

end Simulation

end AirStation
