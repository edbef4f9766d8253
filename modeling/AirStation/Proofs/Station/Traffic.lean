import AirStation.Proofs.Station.SetUp

/-!
The traffic of a station. All of it goes to enabled sensors. A poll gives each sensor one turn, the
HTU21D first and the BME68x last, and a turn takes at most two, two and one transactions; a sensor
that was never set up stays off the bus. Without compensation, or without an HTU21D to compensate
with, the CCS811 is never told a climate (`traffic_is_confined`).

The turns are defined as runs of the single sensors, each on the bus that the ones before it have
left. That a poll is these three turns is an equation, so the bounds can be proved for one sensor at
a time.
-/

namespace AirStation

/-- A write of the environment register of the CCS811, acknowledged or not. -/
def TellsClimate (x : Exchange) : Prop :=
  ∃ payload, x.transfer = .write (Ccs811.Register.environment :: payload)

@[simp] theorem tellsClimate_wrote (address register : UInt8) (payload : List UInt8) :
    TellsClimate (.wrote address (register :: payload)) ↔
      register = Ccs811.Register.environment := by
  simp [TellsClimate, Exchange.wrote]

@[simp] theorem tellsClimate_refused (address register : UInt8) (payload : List UInt8)
    (fault : Fault) :
    TellsClimate (.failed address (.write (register :: payload)) fault) ↔
      register = Ccs811.Register.environment := by
  simp [TellsClimate, Exchange.failed]

@[simp] theorem not_tellsClimate_received (address : UInt8) {count : Nat}
    (bytes : Vector UInt8 count) : ¬ TellsClimate (.received address bytes) := by
  simp [TellsClimate, Exchange.received]

@[simp] theorem not_tellsClimate_fetched (address register : UInt8) {count : Nat}
    (bytes : Vector UInt8 count) : ¬ TellsClimate (.fetched address register bytes) := by
  simp [TellsClimate, Exchange.fetched]

@[simp] theorem not_tellsClimate_unread (address : UInt8) (count : Nat) (fault : Fault) :
    ¬ TellsClimate (.failed address (.read count) fault) := by
  simp [TellsClimate, Exchange.failed]

@[simp] theorem not_tellsClimate_unfetched (address : UInt8) (bytes : List UInt8) (count : Nat)
    (fault : Fault) : ¬ TellsClimate (.failed address (.writeRead bytes count) fault) := by
  simp [TellsClimate, Exchange.failed]

/-- The action tells no climate, and does not try to. Pauses and reports tell nothing. -/
def Withholds : Action Event → Prop
  | .exchanged x => ¬ TellsClimate x
  | _ => True

@[simp] theorem withholds_exchanged (x : Exchange) :
    Withholds (.exchanged x) ↔ ¬ TellsClimate x := Iff.rfl

@[simp] theorem withholds_paused (milliseconds : Nat) : Withholds (.paused milliseconds) := trivial

@[simp] theorem withholds_reported (event : Event) : Withholds (.reported event) := trivial

namespace Htu21d.Driver

theorem init_withholds (d : Driver) (now : Micros) : (d.init now).Does Withholds := by
  apply BusM.Does.of_always (d.init_always now)
  intro actions outcome h
  cases h <;> simp [softReset, Ccs811.Register.environment]

theorem update_withholds (d : Driver) (now : Micros) : (d.update now).Does Withholds := by
  apply BusM.Does.of_always (d.update_always now)
  intro actions d' h
  cases h <;> simp [Stage.command, Ccs811.Register.environment]

theorem update_brief (d : Driver) (now : Micros) :
    (d.update now).Always fun actions _ => (actions.filterMap Action.exchange?).length ≤ 2 := by
  apply (d.update_always now).mono
  intro actions d' h
  cases h <;> simp

end Htu21d.Driver

namespace Ccs811.Driver

open Register

theorem init_withholds (d : Driver) (now : Micros) : (d.init now).Does Withholds := by
  apply BusM.Does.of_always (d.init_always now)
  intro actions outcome h
  cases h <;> simp [startApplication, measurementMode, environment]

theorem update_withholds {d : Driver} (hpending : d.pendingEnvironment = none) (now : Micros) :
    (d.update now).Does Withholds := by
  apply BusM.Does.of_always (d.update_always now)
  intro actions d' h
  cases h <;> simp_all [result, environment]

theorem interruption_withholds (d : Driver) : ∀ action ∈ d.interruption, Withholds action := by
  unfold interruption
  cases d.phase <;> simp

theorem readBaseline_withholds (d : Driver) : d.readBaseline.Does Withholds := by
  apply BusM.Does.of_always d.readBaseline_always
  intro actions outcome h
  cases h with
  | idle => simp
  | refused | read => exact List.forall_mem_append.mpr ⟨d.interruption_withholds, by simp⟩

theorem writeBaseline_withholds (d : Driver) (baseline : UInt16) :
    (d.writeBaseline baseline).Does Withholds := by
  apply BusM.Does.of_always (d.writeBaseline_always baseline)
  intro actions outcome h
  cases h with
  | idle => simp
  | refused | written =>
    refine List.forall_mem_append.mpr ⟨d.interruption_withholds, ?_⟩
    simp [Register.baseline, environment]

theorem update_brief (d : Driver) (now : Micros) :
    (d.update now).Always fun actions _ => (actions.filterMap Action.exchange?).length ≤ 2 := by
  apply (d.update_always now).mono
  intro actions d' h
  cases h <;> simp

theorem Update.unpending {d d' : Driver} {now : Micros} {actions : List (Action Event)}
    (h : d.Update now actions d') (hpending : d.pendingEnvironment = none) :
    d'.pendingEnvironment = none := by
  cases h <;> simp_all

theorem readBaseline_of_idle {d : Driver} (hphase : d.phase = .idle) :
    d.readBaseline = pure (.error (.notInitialized Sensor.ccs811.name), d) := by
  simp [readBaseline, hphase]

theorem writeBaseline_of_idle {d : Driver} (hphase : d.phase = .idle) (baseline : UInt16) :
    d.writeBaseline baseline = pure (.error (.notInitialized Sensor.ccs811.name), d) := by
  simp [writeBaseline, hphase]

end Ccs811.Driver

namespace Bme68x

/-- All registers that are written lie above the environment register. -/
theorem Proper.withholds {address : UInt8} {action : Action Event} (h : Proper address action) :
    Withholds action := by
  cases action with
  | exchanged x =>
    rintro ⟨payload, htransfer⟩
    obtain ⟨register, value, hregister, hbytes⟩ := h.2 _ htransfer
    rw [← (List.cons.inj hbytes).1] at hregister
    exact absurd hregister (by decide)
  | paused | reported => trivial

theorem Driver.update_brief (d : Driver) (now : Micros) :
    (d.update now).Always fun actions _ => (actions.filterMap Action.exchange?).length ≤ 1 := by
  apply (d.update_always now).mono
  intro actions d' h
  cases h <;> simp [List.filterMap_append, List.filterMap_map, Function.comp_def]

end Bme68x

namespace Station

variable {β : Type} [Bus β] {c : Config} {s s' : Station}

/-- The updates of the three sensors in one poll, each as a run of its own. -/
structure Turns (β : Type) where
  htu21d : Run β Event (Option Htu21d.Driver)
  ccs811 : Run β Event (Option Ccs811.Driver)
  bme68x : Run β Event (Option Bme68x.Driver)

/-- Each update alone, on the bus that the ones before it left. -/
def turns (s : Station) (now : Micros) (bus : β) : Turns β :=
  let htu21d := (updateSensor (·.update now) s.htu21d).run bus
  let fed := feedEnvironment { s with htu21d := htu21d.value }
  let ccs811 := (updateSensor (·.update now) fed.ccs811).run htu21d.bus
  let bme68x := (updateSensor (·.update now) fed.bme68x).run ccs811.bus
  ⟨htu21d, ccs811, bme68x⟩

def Turns.exchanges (t : Turns β) : Sensor → List Exchange
  | .htu21d => t.htu21d.exchanges
  | .ccs811 => t.ccs811.exchanges
  | .bme68x => t.bme68x.exchanges

theorem yields_poll (s : Station) (now : Micros) (bus : β) :
    let t := s.turns now bus
    (s.poll now).Yields bus t.bme68x.bus
      (t.exchanges .htu21d ++ (t.exchanges .ccs811 ++ t.exchanges .bme68x))
      { feedEnvironment { s with htu21d := t.htu21d.value } with
        ccs811 := t.ccs811.value, bme68x := t.bme68x.value } := by
  intro t
  refine (BusM.yields_run _ bus).bind ?_
  refine (BusM.yields_run _ _).bind ?_
  exact (BusM.yields_run _ _).bind_nil ⟨rfl, rfl, rfl⟩

theorem run_updateSensor {σ : Type} (update : σ → SensorM σ) (d : σ) (bus : β) :
    let run := (update d).run bus
    (updateSensor update (some d)).run bus = ⟨some run.value, run.bus, run.actions⟩ :=
  BusM.run_map some (update d) bus

theorem run_poll {fed : Station} {htu : Htu21d.Driver} {ccs : Ccs811.Driver}
    {bme : Bme68x.Driver} {now : Micros} {bus : β} (hhtu : s.htu21d = some htu)
    (hfed : feedEnvironment { s with htu21d := some ((htu.update now).run bus).value } = fed)
    (hccs : fed.ccs811 = some ccs) (hbme : fed.bme68x = some bme) :
    let first := (htu.update now).run bus
    let second := (ccs.update now).run first.bus
    let third := (bme.update now).run second.bus
    (s.poll now).run bus =
      ⟨{ fed with ccs811 := some second.value, bme68x := some third.value }, third.bus,
        first.actions ++ (second.actions ++ third.actions)⟩ := by
  intro first second third
  simp only [poll, BusM.run_bind, hhtu, run_updateSensor]
  rw [hfed]
  simp only [hccs, hbme, run_updateSensor, BusM.run, pure, List.append_nil]
  rfl

/-- What a sensor may put on the bus in its turn: so many transactions, to its own address, and none
while it is idle. -/
structure Allowance (c : Config) (sensor : Sensor) (idle : Prop) (limit : Nat)
    (exchanges : List Exchange) : Prop where
  confined : ∀ x ∈ exchanges, c.address? sensor = some x.address
  bounded : exchanges.length ≤ limit
  silent : idle → exchanges = []

theorem turn_updateSensor {σ : Type} {update : σ → SensorM σ} {address : σ → UInt8}
    {sensor : Sensor} {driver : Option σ} {idle : Prop} {limit : Nat}
    (hplaced : c.Finds sensor address driver)
    (haddress : ∀ d, (update d).Does (·.To (· = address d)))
    (hlimit : ∀ d, (update d).Always fun actions _ =>
      (actions.filterMap Action.exchange?).length ≤ limit)
    (hidle : ∀ d, driver = some d → idle → (update d).Does fun _ => False) (bus : β) :
    Allowance c sensor idle limit ((updateSensor update driver).run bus).exchanges := by
  cases driver with
  | none => exact ⟨List.forall_mem_nil _, Nat.zero_le _, fun _ => rfl⟩
  | some d =>
    have hrun : ((updateSensor update (some d)).run bus).exchanges =
        ((update d).run bus).exchanges := by
      simp only [updateSensor, BusM.run_map, Run.exchanges]
    rw [hrun]
    refine ⟨fun x hx => ?_, (hlimit d).run bus, fun hquiet => ?_⟩
    · have hto := ((BusM.does_iff_always _ _).mp (haddress d)).run bus
      rw [hplaced d rfl, hto _ (Action.mem_exchanges.mp hx)]
    · have hnone := ((BusM.does_iff_always _ _).mp (hidle d rfl hquiet)).run bus
      rw [Run.exchanges, List.eq_nil_iff_forall_not_mem.mpr hnone]
      rfl

theorem turn_htu21d (hs : Placed c s) (now : Micros) (bus : β) :
    Allowance c .htu21d (s.Idle .htu21d) 2 ((s.turns now bus).exchanges .htu21d) := by
  apply turn_updateSensor hs.htu21d (·.update_does now) (·.update_brief now)
  intro d hd hidle
  exact update_idle_htu21d d now (resting_of_isIdle hidle hd)

theorem turn_ccs811 (hs : Placed c s) (now : Micros) (bus : β) :
    Allowance c .ccs811 (s.Idle .ccs811) 2 ((s.turns now bus).exchanges .ccs811) := by
  have hplaced := finds_feedEnvironment
    (s := { s with htu21d := (s.turns now bus).htu21d.value }) hs.ccs811
  apply turn_updateSensor hplaced (·.update_does now) (·.update_brief now)
  intro d hd hidle
  exact update_idle_ccs811 d now (resting_of_isIdle (idle_feedEnvironment hidle _) hd)

theorem turn_bme68x (hs : Placed c s) (now : Micros) (bus : β) :
    Allowance c .bme68x (s.Idle .bme68x) 1 ((s.turns now bus).exchanges .bme68x) := by
  have hplaced : c.Finds .bme68x (·.address)
      (feedEnvironment { s with htu21d := (s.turns now bus).htu21d.value }).bme68x := by
    rw [bme68x_feedEnvironment]
    exact hs.bme68x
  apply turn_updateSensor hplaced (·.update_does now) (·.update_brief now)
  intro d hd hidle
  rw [bme68x_feedEnvironment] at hd
  exact update_idle_bme68x d now (resting_of_isIdle hidle hd)

/-- An enabled sensor has the address, whichever of the three it is. -/
def Assigned (c : Config) (address : UInt8) : Prop :=
  ∃ sensor, c.address? sensor = some address

theorem assigned_of_to {σ : Type} {m : SensorM σ} {sensor : Sensor} {address : UInt8}
    (haddress : c.address? sensor = some address) (hm : m.Does (·.To (· = address))) :
    m.Does (·.To (Assigned c)) := by
  apply hm.mono
  intro action haction
  apply haction.mono
  rintro _ rfl
  exact ⟨sensor, haddress⟩

theorem step_assigned (hs : Placed c s) (call : Call) :
    (s.step call).Does (·.To (Assigned c)) := by
  apply step_does
  · rintro now -
    apply init_does (fun _ => trivial)
    · exact fun d hd => assigned_of_to (hs.htu21d d hd) (d.init_does now)
    · exact fun d hd => assigned_of_to (hs.ccs811 d hd) (d.init_does now)
    · exact fun d hd => assigned_of_to (hs.bme68x d hd) (d.init_does now)
  · rintro now -
    apply poll_does
    · exact fun d hd => assigned_of_to (hs.htu21d d hd) (d.update_does now)
    · intro htu21d _ d hd
      have hplaced := finds_feedEnvironment (s := { s with htu21d }) hs.ccs811 d hd
      exact assigned_of_to hplaced (d.update_does now)
    · intro htu21d d hd
      rw [bme68x_feedEnvironment] at hd
      exact assigned_of_to (hs.bme68x d hd) (d.update_does now)
  · rintro -
    exact baseline_does fun d hd => assigned_of_to (hs.ccs811 d hd) d.readBaseline_does
  · rintro record -
    exact restoreBaseline_does fun d hd =>
      assigned_of_to (hs.ccs811 d hd) (d.writeBaseline_does record.baseline)

/-- There is nothing to hand over, and nothing has been, so no climate is pending. -/
structure Mute (s : Station) : Prop where
  unfed : s.environmentCompensation = false ∨ s.htu21d = none
  pending : ∀ d, s.ccs811 = some d → d.pendingEnvironment = none

theorem mute_ofConfig (hc : c.ccs811.environmentCompensation = false ∨ c.htu21d.enabled = false) :
    Mute (ofConfig c) where
  unfed := by
    rcases hc with hcompensation | hdisabled
    · exact .inl hcompensation
    · exact .inr (by simp [ofConfig, hdisabled])
  pending d hd := by
    by_cases henabled : c.ccs811.enabled
    · simp [ofConfig, henabled] at hd
      simp [← hd, Ccs811.Driver.create]
    · simp [ofConfig, henabled] at hd

theorem feedEnvironment_of_unfed (h : s.environmentCompensation = false ∨ s.htu21d = none) :
    feedEnvironment s = s := by
  unfold feedEnvironment
  rcases h with hcompensation | hnone
  · simp [hcompensation]
  · rw [hnone]
    split
    · simp_all
    · rfl

theorem unfed_of_isSome_eq {compensation : Bool} {before after : Option Htu21d.Driver}
    (h : compensation = false ∨ before = none) (hsome : after.isSome = before.isSome) :
    compensation = false ∨ after = none := by
  refine h.imp_right fun hnone => ?_
  rw [hnone] at hsome
  exact Option.isNone_iff_eq_none.mp (Option.isSome_eq_false_iff.mp hsome)

theorem Mute.step {call : Call} {actions : List (Action Event)} (h : Mute s)
    (hstep : s.Step call actions s') : Mute s' := by
  cases call with
  | init now =>
    obtain ⟨hhtu, hccs, -, -⟩ := hstep
    refine ⟨unfed_of_isSome_eq h.unfed hhtu.isSome_eq, fun d' hd' => ?_⟩
    obtain ⟨d, _, _, hd, hinit⟩ := hccs.origin hd'
    exact hinit.pendingEnvironment_eq.2.trans (h.pending d hd)
  | poll now =>
    obtain ⟨hhtu, rfl, hccs, -⟩ := hstep
    have hunfed := unfed_of_isSome_eq h.unfed hhtu.isSome_eq
    rw [feedEnvironment_of_unfed hunfed] at hccs ⊢
    refine ⟨hunfed, ?_⟩
    rintro d' ⟨rfl⟩
    obtain ⟨d, hd, hupdate⟩ := hccs.origin
    exact hupdate.unpending (h.pending d hd)
  | baseline =>
    cases hstep with
    | absent => exact h
    | present hccs hread =>
      refine ⟨h.unfed, ?_⟩
      rintro d' ⟨rfl⟩
      exact hread.pendingEnvironment_eq.2.trans (h.pending _ hccs)
  | restoreBaseline record =>
    cases hstep with
    | absent => exact h
    | present hccs hwritten =>
      refine ⟨h.unfed, ?_⟩
      rintro d' ⟨rfl⟩
      exact hwritten.pendingEnvironment_eq.2.trans (h.pending _ hccs)

theorem Mute.withholds (h : Mute s) (call : Call) : (s.step call).Does Withholds := by
  apply step_does
  · rintro now -
    apply init_does (fun _ => trivial)
    · exact fun d _ => d.init_withholds now
    · exact fun d _ => d.init_withholds now
    · exact fun d _ => (d.init_proper now).mono fun _ hproper => hproper.withholds
  · rintro now -
    apply poll_does
    · exact fun d _ => d.update_withholds now
    · intro htu21d hsome d hd
      rw [feedEnvironment_of_unfed (s := { s with htu21d })
        (unfed_of_isSome_eq h.unfed hsome)] at hd
      exact Ccs811.Driver.update_withholds (h.pending d hd) now
    · exact fun _ d _ => (d.update_proper now).mono fun _ hproper => hproper.withholds
  · rintro -
    exact baseline_does fun d _ => d.readBaseline_withholds
  · rintro record -
    exact restoreBaseline_does fun d _ => d.writeBaseline_withholds record.baseline

theorem mute_history (hc : c.ccs811.environmentCompensation = false ∨ c.htu21d.enabled = false)
    (bus : β) (calls : List Call) : Mute (history c bus calls).state :=
  History.invariant (fun _ s => Mute s) step_always (fun _ _ _ _ _ h hstep => h.step hstep)
    (mute_ofConfig hc) calls

theorem baseline_of_idle (hidle : s.Idle .ccs811) :
    s.baseline = pure (.error (.notInitialized Sensor.ccs811.name), s) ∧
      ∀ record, s.restoreBaseline record =
        pure (.error (.notInitialized Sensor.ccs811.name), s) := by
  obtain ⟨d, hd, hresting⟩ := isIdle_map.mp hidle
  have hphase : d.phase = .idle := (resting_idle_iff _).mp hresting
  have hsame : { s with ccs811 := some d } = s := by rw [← hd]
  constructor
  · simp [baseline, hd, Ccs811.Driver.readBaseline_of_idle hphase, Except.map, hsame]
  · intro record
    simp [restoreBaseline, hd, Ccs811.Driver.writeBaseline_of_idle hphase, hsame]

/-- However the bus answers and whatever calls are made at whatever times: every transaction goes to
an enabled sensor; those of a poll are at most two by the HTU21D, then at most two by the CCS811,
then at most one by the BME68x, and none by a sensor that was never set up; the baseline of a CCS811
that was never set up is refused without touching the bus; and without compensation or without an
HTU21D no climate is ever written. -/
theorem traffic_is_confined (c : Config) (bus : β) (calls : List Call) (call : Call) :
    let h := history c bus calls
    let e := h.episode step call
    (∀ x ∈ e.exchanges, ∃ sensor, c.address? sensor = some x.address) ∧
    (∀ now, call = .poll now →
      let t := h.state.turns now h.bus
      e.exchanges = t.exchanges .htu21d ++ (t.exchanges .ccs811 ++ t.exchanges .bme68x) ∧
      (∀ sensor, ∀ x ∈ t.exchanges sensor, c.address? sensor = some x.address) ∧
      (t.exchanges .htu21d).length ≤ 2 ∧ (t.exchanges .ccs811).length ≤ 2 ∧
      (t.exchanges .bme68x).length ≤ 1 ∧
      ∀ sensor, NeverReady c bus calls sensor → t.exchanges sensor = []) ∧
    (c.ccs811.enabled = true → NeverReady c bus calls .ccs811 →
      h.state.baseline.run h.bus =
        ⟨(.error (.notInitialized Sensor.ccs811.name), h.state), h.bus, []⟩ ∧
      ∀ record, (h.state.restoreBaseline record).run h.bus =
        ⟨(.error (.notInitialized Sensor.ccs811.name), h.state), h.bus, []⟩) ∧
    (c.ccs811.environmentCompensation = false ∨ c.htu21d.enabled = false →
      ∀ x ∈ e.exchanges, ¬ TellsClimate x) := by
  intro h e
  have hplaced : Placed c h.state := placed_history c bus calls
  refine ⟨fun x hx => ?_, ?_, fun henabled hnever => ?_, fun hc x hx => ?_⟩
  · have hto := ((BusM.does_iff_always _ _).mp (step_assigned hplaced call)).run h.bus
    exact hto _ (Action.mem_exchanges.mp hx)
  · rintro now rfl t
    have hhtu := turn_htu21d hplaced now h.bus
    have hccs := turn_ccs811 hplaced now h.bus
    have hbme := turn_bme68x hplaced now h.bus
    have hconfined : ∀ sensor, ∀ x ∈ t.exchanges sensor, c.address? sensor = some x.address := by
      rintro (_ | _ | _)
      · exact hhtu.confined
      · exact hccs.confined
      · exact hbme.confined
    refine ⟨(yields_poll h.state now h.bus).exchanges_eq, hconfined, hhtu.bounded, hccs.bounded,
      hbme.bounded, fun sensor hnever => ?_⟩
    by_cases haddress : c.address? sensor = none
    · refine List.eq_nil_iff_forall_not_mem.mpr fun x hx => ?_
      nomatch haddress.symm.trans (hconfined sensor x hx)
    · have hidle : h.state.Idle sensor := (idle_history_iff calls).mpr ⟨haddress, hnever⟩
      cases sensor with
      | htu21d => exact hhtu.silent hidle
      | ccs811 => exact hccs.silent hidle
      | bme68x => exact hbme.silent hidle
  · have haddress : c.address? .ccs811 ≠ none := by simp [Config.address?, henabled]
    have hidle : h.state.Idle .ccs811 := (idle_history_iff calls).mpr ⟨haddress, hnever⟩
    obtain ⟨hread, hwrite⟩ := baseline_of_idle hidle
    refine ⟨by rw [hread]; rfl, fun record => by rw [hwrite]; rfl⟩
  · have hmute := (mute_history hc bus calls).withholds call
    have hwithholds := ((BusM.does_iff_always _ _).mp hmute).run h.bus
    exact hwithholds _ (Action.mem_exchanges.mp hx)

/-- The standard configuration without compensation. -/
def uncompensated : Config :=
  { Config.standard with
    ccs811 := { Config.standard.ccs811 with environmentCompensation := false } }

/-- A device that answers zeros is no CCS811, and stays off the bus until it is. -/
theorem traffic_is_confined_mistaken :
    let bus := zeroBus fun _ => true
    let h := history uncompensated bus [.init 0]
    NeverReady uncompensated bus [.init 0] .ccs811 ∧
      (h.state.turns 1000000 h.bus).exchanges .ccs811 = [] ∧
      h.state.baseline.run h.bus =
        ⟨(.error (.notInitialized Sensor.ccs811.name), h.state), h.bus, []⟩ ∧
      ∀ x ∈ (h.episode step (.poll 1000000)).exchanges, ¬ TellsClimate x := by
  intro bus h
  obtain ⟨-, hpoll, hbaseline, hwithheld⟩ :=
    traffic_is_confined uncompensated bus [.init 0] (.poll 1000000)
  have hidle : h.state.Idle .ccs811 := ⟨.ofInterval 1000000, by decide +kernel⟩
  have hnever := ((idle_history_iff [.init 0]).mp hidle).2
  obtain ⟨-, -, -, -, -, hsilent⟩ := hpoll 1000000 rfl
  exact ⟨hnever, hsilent .ccs811 hnever, (hbaseline rfl hnever).1, hwithheld (.inl rfl)⟩

end Station

end AirStation
