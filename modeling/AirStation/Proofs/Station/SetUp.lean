import AirStation.Proofs.Bus.Timeline
import AirStation.Proofs.Station.Isolation
import AirStation.Simulated.Bus
import Mathlib.Data.List.Induction

/-!
Setting up the sensors of a station. Each enabled sensor is tried, on the bus that the ones before
it left, and the first failure is the result. A failed set-up leaves the cycle of its sensor as it
was: idle if the sensor was idle, and running if it was running (`init_tries_every_sensor`).

So a sensor is idle exactly until one of its own set-ups has succeeded, whatever became of the
others. Until then nothing but a set-up goes to its address. A sensor that has been running and
fails a set-up goes on, and the next poll finds it where it was (`failed_init_keeps_running`).
-/

namespace AirStation

/-- Where a cycle rests, whatever its stages are, so that the three drivers can be compared. -/
inductive Resting where
  | idle
  | waiting
  | converting
deriving DecidableEq, Repr

def Phase.resting {σ : Type} : Phase σ → Resting
  | .idle => .idle
  | .waitingForInterval => .waiting
  | .waitingForConversion _ => .converting

/-- Where a cycle rests, and its timer; the rest of a driver belongs to its readings. -/
structure Cycle where
  resting : Resting
  timer : PollTimer
deriving DecidableEq, Repr

def Htu21d.Driver.cycle (d : Htu21d.Driver) : Cycle :=
  ⟨d.phase.resting, d.timer⟩

def Ccs811.Driver.cycle (d : Ccs811.Driver) : Cycle :=
  ⟨d.phase.resting, d.timer⟩

def Bme68x.Driver.cycle (d : Bme68x.Driver) : Cycle :=
  ⟨d.phase.resting, d.timer⟩

namespace BusM

variable {β ε α γ : Type} [Bus β]

/-- How a run ends and what it exchanges, whatever it reports and however long it pauses. -/
structure Yields (m : BusM ε α) (bus after : β) (exchanges : List Exchange) (value : α) :
    Prop where
  bus_eq : (m.run bus).bus = after
  exchanges_eq : (m.run bus).exchanges = exchanges
  value_eq : (m.run bus).value = value

theorem yields_run (m : BusM ε α) (bus : β) :
    m.Yields bus (m.run bus).bus (m.run bus).exchanges (m.run bus).value :=
  ⟨rfl, rfl, rfl⟩

variable {m : BusM ε α} {f : α → BusM ε γ} {bus middle after : β}
  {exchanges later : List Exchange} {value : α} {last : γ}

theorem Yields.bind (hm : m.Yields bus middle exchanges value)
    (hf : (f value).Yields middle after later last) :
    (m >>= f).Yields bus after (exchanges ++ later) last := by
  obtain ⟨rfl, rfl, rfl⟩ := hm
  obtain ⟨rfl, rfl, rfl⟩ := hf
  constructor
  · rw [run_bind]
  · simp [run_bind, Run.exchanges]
  · rw [run_bind]

theorem Yields.bind_nil (hm : m.Yields bus middle exchanges value)
    (hf : (f value).Yields middle after [] last) :
    (m >>= f).Yields bus after exchanges last := by
  rw [← List.append_nil exchanges]
  exact hm.bind hf

end BusM

namespace Station

/-- The cycle of a sensor, or none for a sensor that is not enabled. -/
def cycle? (s : Station) : Sensor → Option Cycle
  | .htu21d => s.htu21d.map (·.cycle)
  | .ccs811 => s.ccs811.map (·.cycle)
  | .bme68x => s.bme68x.map (·.cycle)

/-- What setting a sensor up does to its cycle; nothing comes of it without the sensor. A success
starts the interval, and a failure changes nothing. -/
inductive SetUp (now : Micros) :
    Option Cycle → Option (Except SensorError Unit) → Option Cycle → Prop where
  | absent : SetUp now none none none
  | ready (before : Cycle) (timer : PollTimer) (htimer : timer.cycleStarted = now) :
    SetUp now (some before) (some (.ok ())) (some ⟨.waiting, timer⟩)
  | failed (cycle : Cycle) (error : SensorError) :
    SetUp now (some cycle) (some (.error error)) (some cycle)

section Attempts

variable {β σ : Type}

def tryInit (init : σ → SensorM (Except SensorError Unit × σ)) :
    Option σ → SensorM (Option (Except SensorError Unit) × Option σ)
  | none => return (none, none)
  | some d => (fun outcome => (some outcome.1, some outcome.2)) <$> init d

def failure? : Option (Except SensorError Unit) → Option SensorError
  | some (.error error) => some error
  | _ => none

/-- The set-ups of the three sensors, each with its result and the bus that it left. -/
structure Attempts (β : Type) where
  htu21d : Run β Event (Option (Except SensorError Unit) × Option Htu21d.Driver)
  ccs811 : Run β Event (Option (Except SensorError Unit) × Option Ccs811.Driver)
  bme68x : Run β Event (Option (Except SensorError Unit) × Option Bme68x.Driver)

/-- Each set-up alone, on the bus that the ones before it left. -/
def attempts [Bus β] (s : Station) (now : Micros) (bus : β) : Attempts β :=
  let htu21d := (tryInit (·.init now) s.htu21d).run bus
  let ccs811 := (tryInit (·.init now) s.ccs811).run htu21d.bus
  let bme68x := (tryInit (·.init now) s.bme68x).run ccs811.bus
  ⟨htu21d, ccs811, bme68x⟩

namespace Attempts

def result (a : Attempts β) : Sensor → Option (Except SensorError Unit)
  | .htu21d => a.htu21d.value.1
  | .ccs811 => a.ccs811.value.1
  | .bme68x => a.bme68x.value.1

def exchanges (a : Attempts β) : List Exchange :=
  a.htu21d.exchanges ++ (a.ccs811.exchanges ++ a.bme68x.exchanges)

/-- The error of the first sensor that failed, in the order of the set-ups. -/
def verdict (a : Attempts β) : Except SensorError Unit :=
  match [Sensor.htu21d, .ccs811, .bme68x].findSome? (failure? ∘ a.result) with
  | some error => .error error
  | none => .ok ()

theorem verdict_eq_ok_iff (a : Attempts β) :
    a.verdict = .ok () ↔ ∀ sensor error, a.result sensor ≠ some (.error error) := by
  have hfailure : ∀ result : Option (Except SensorError Unit),
      failure? result = none ↔ ∀ error, result ≠ some (.error error) := by
    rintro (_ | (_ | _)) <;> simp [failure?]
  have hsensors : (∀ sensor, failure? (a.result sensor) = none) ↔
      ∀ sensor ∈ [Sensor.htu21d, .ccs811, .bme68x], (failure? ∘ a.result) sensor = none := by
    constructor
    · intro h sensor _
      exact h sensor
    · intro h sensor
      cases sensor <;> exact h _ (by simp)
  simp only [← hfailure, hsensors, ← List.findSome?_eq_none_iff, verdict]
  split <;> simp_all

end Attempts

variable [Bus β]

/-- A station sets a sensor up as it would be set up alone, and reports a failure. -/
theorem yields_initSensor (init : σ → SensorM (Except SensorError Unit × σ)) (sensor : Option σ)
    (bus : β) :
    let tried := (tryInit init sensor).run bus
    (initSensor init sensor).Yields bus tried.bus tried.exchanges
      (failure? tried.value.1, tried.value.2) := by
  cases sensor with
  | none => exact ⟨rfl, rfl, rfl⟩
  | some d =>
    rw [tryInit, BusM.run_map]
    refine (BusM.yields_run (init d) bus).bind_nil ?_
    obtain ⟨result, d'⟩ := ((init d).run bus).value
    cases result with
    | error error => exact ⟨rfl, rfl, rfl⟩
    | ok _ => exact ⟨rfl, rfl, rfl⟩

theorem yields_init (s : Station) (now : Micros) (bus : β) :
    let tried := s.attempts now bus
    (s.init now).Yields bus tried.bme68x.bus tried.exchanges
      (tried.verdict, { s with
        htu21d := tried.htu21d.value.2, ccs811 := tried.ccs811.value.2,
        bme68x := tried.bme68x.value.2 }) := by
  intro tried
  refine (yields_initSensor (·.init now) s.htu21d bus).bind ?_
  refine (yields_initSensor (·.init now) s.ccs811 tried.htu21d.bus).bind ?_
  refine (yields_initSensor (·.init now) s.bme68x tried.ccs811.bus).bind_nil ?_
  simp only [Attempts.verdict, List.findSome?, Function.comp_apply, Attempts.result]
  change BusM.Yields (match failure? tried.htu21d.value.1 <|> failure? tried.ccs811.value.1 <|>
    failure? tried.bme68x.value.1 with | some error => _ | none => _) _ _ _ _
  cases failure? tried.htu21d.value.1 with
  | some error => exact ⟨rfl, rfl, rfl⟩
  | none =>
    cases failure? tried.ccs811.value.1 with
    | some error => exact ⟨rfl, rfl, rfl⟩
    | none => cases failure? tried.bme68x.value.1 <;> exact ⟨rfl, rfl, rfl⟩

theorem setUp_htu21d (d : Htu21d.Driver) (now : Micros) :
    (d.init now).Always fun _ outcome =>
      SetUp now (some d.cycle) (some outcome.1) (some outcome.2.cycle) := by
  apply (d.init_always now).mono
  rintro actions ⟨result, d'⟩ h
  cases h with
  | refused => exact .failed _ _
  | ready => exact .ready _ _ rfl

theorem setUp_ccs811 (d : Ccs811.Driver) (now : Micros) :
    (d.init now).Always fun _ outcome =>
      SetUp now (some d.cycle) (some outcome.1) (some outcome.2.cycle) := by
  apply (d.init_always now).mono
  rintro actions ⟨result, d'⟩ h
  cases h with
  | unidentified | mistaken | unstarted | unset => exact .failed _ _
  | ready => exact .ready _ _ rfl

theorem setUp_bme68x (d : Bme68x.Driver) (now : Micros) :
    (d.init now).Always fun _ outcome =>
      SetUp now (some d.cycle) (some outcome.1) (some outcome.2.cycle) := by
  apply (d.init_always now).mono
  rintro actions ⟨result, d'⟩ h
  cases h with
  | failed => exact .failed _ _
  | ready => exact .ready _ _ rfl

theorem setUp_tryInit {init : σ → SensorM (Except SensorError Unit × σ)} {cycle : σ → Cycle}
    {now : Micros}
    (hinit : ∀ d, (init d).Always fun _ outcome =>
      SetUp now (some (cycle d)) (some outcome.1) (some (cycle outcome.2)))
    (sensor : Option σ) (bus : β) :
    let tried := (tryInit init sensor).run bus
    SetUp now (sensor.map cycle) tried.value.1 (tried.value.2.map cycle) := by
  cases sensor with
  | none => exact .absent
  | some d =>
    rw [tryInit, BusM.run_map]
    exact (hinit d).run bus

/-- Every sensor that is enabled is set up, or fails and stays as it was. -/
theorem setUp_init (s : Station) (now : Micros) (bus : β) (sensor : Sensor) :
    SetUp now (s.cycle? sensor) ((s.attempts now bus).result sensor)
      (((s.init now).run bus).value.2.cycle? sensor) := by
  rw [(yields_init s now bus).value_eq]
  cases sensor with
  | htu21d => exact setUp_tryInit (setUp_htu21d · now) s.htu21d bus
  | ccs811 => exact setUp_tryInit (setUp_ccs811 · now) s.ccs811 _
  | bme68x => exact setUp_tryInit (setUp_bme68x · now) s.bme68x _

end Attempts

def IsIdle (cycle : Option Cycle) : Prop :=
  ∃ timer, cycle = some ⟨.idle, timer⟩

def Idle (s : Station) (sensor : Sensor) : Prop :=
  IsIdle (s.cycle? sensor)

theorem SetUp.isIdle_iff {now : Micros} {before after : Option Cycle}
    {result : Option (Except SensorError Unit)} (h : SetUp now before result after) :
    IsIdle after ↔ IsIdle before ∧ result ≠ some (.ok ()) := by
  cases h <;> simp [IsIdle]

theorem isIdle_map {σ : Type} {cycle : σ → Cycle} {sensor : Option σ} :
    IsIdle (sensor.map cycle) ↔ ∃ d, sensor = some d ∧ (cycle d).resting = .idle := by
  cases sensor with
  | none => simp [IsIdle]
  | some d =>
    constructor
    · rintro ⟨timer, htimer⟩
      exact ⟨d, rfl, congrArg Cycle.resting (Option.some.inj htimer)⟩
    · rintro ⟨_, ⟨rfl⟩, hidle⟩
      exact ⟨(cycle d).timer, congrArg some (by rw [← hidle])⟩

theorem UpdateSensor.isIdle_iff {σ : Type} {cycle : σ → Cycle}
    {R : σ → List (Action Event) → σ → Prop}
    (hR : ∀ d actions d', R d actions d' →
      ((cycle d').resting = .idle ↔ (cycle d).resting = .idle))
    {sensor sensor' : Option σ} {actions : List (Action Event)}
    (h : UpdateSensor R sensor actions sensor') :
    IsIdle (sensor'.map cycle) ↔ IsIdle (sensor.map cycle) := by
  cases h with
  | absent => rfl
  | present h => simp only [isIdle_map, Option.some.injEq, exists_eq_left', hR _ _ _ h]

theorem resting_idle_iff {σ : Type} (phase : Phase σ) : phase.resting = .idle ↔ phase = .idle := by
  cases phase <;> simp [Phase.resting]

theorem idle_update_htu21d {d d' : Htu21d.Driver} {now : Micros} {actions : List (Action Event)}
    (h : d.Update now actions d') : d'.cycle.resting = .idle ↔ d.cycle.resting = .idle := by
  simp only [Htu21d.Driver.cycle, resting_idle_iff]
  cases h <;> simp_all

theorem idle_update_ccs811 {d d' : Ccs811.Driver} {now : Micros} {actions : List (Action Event)}
    (h : d.Update now actions d') : d'.cycle.resting = .idle ↔ d.cycle.resting = .idle := by
  simp only [Ccs811.Driver.cycle, resting_idle_iff]
  cases h <;> simp_all

theorem idle_update_bme68x {d d' : Bme68x.Driver} {now : Micros} {actions : List (Action Event)}
    (h : d.Update now actions d') : d'.cycle.resting = .idle ↔ d.cycle.resting = .idle := by
  simp only [Bme68x.Driver.cycle, resting_idle_iff]
  cases h <;> simp_all

theorem idle_interrupted (d : Ccs811.Driver) :
    d.interrupted.cycle.resting = .idle ↔ d.cycle.resting = .idle := by
  unfold Ccs811.Driver.interrupted
  split
  case h_1 hphase => simp [Ccs811.Driver.cycle, hphase, Phase.resting]
  case h_2 => rfl

theorem cycle?_feedEnvironment (s : Station) : (feedEnvironment s).cycle? = s.cycle? := by
  funext sensor
  cases sensor with
  | htu21d => simp [cycle?]
  | bme68x => simp [cycle?]
  | ccs811 =>
    simp only [cycle?]
    rcases ccs811_feedEnvironment s with hsame | ⟨d, _, _, hd, hfed⟩
    · rw [hsame]
    · rw [hfed, hd]
      rfl

/-- Only a set-up ends idleness, and nothing starts it. -/
theorem Step.idle_iff {s s' : Station} {call : Call} {actions : List (Action Event)}
    (h : s.Step call actions s') (hcall : ∀ now, call ≠ .init now) (sensor : Sensor) :
    s'.Idle sensor ↔ s.Idle sensor := by
  cases call with
  | init now => exact absurd rfl (hcall now)
  | poll now =>
    obtain ⟨hhtu, rfl, hccs, hbme⟩ := h
    cases sensor with
    | htu21d =>
      rw [Idle, cycle?, htu21d_feedEnvironment]
      exact hhtu.isIdle_iff fun _ _ _ h => idle_update_htu21d h
    | ccs811 =>
      refine (hccs.isIdle_iff fun _ _ _ h => idle_update_ccs811 h).trans ?_
      exact iff_of_eq (congrArg IsIdle (congrFun (cycle?_feedEnvironment _) .ccs811))
    | bme68x =>
      refine (hbme.isIdle_iff fun _ _ _ h => idle_update_bme68x h.1).trans ?_
      rw [bme68x_feedEnvironment]
      rfl
  | baseline =>
    cases h with
    | absent => rfl
    | present hccs hread =>
      cases sensor with
      | htu21d | bme68x => rfl
      | ccs811 =>
        simp only [Idle, cycle?, isIdle_map, hccs]
        cases hread <;> simp [idle_interrupted]
  | restoreBaseline record =>
    cases h with
    | absent => rfl
    | present hccs hwritten =>
      cases sensor with
      | htu21d | bme68x => rfl
      | ccs811 =>
        simp only [Idle, cycle?, isIdle_map, hccs]
        cases hwritten <;> simp [idle_interrupted]

section Traffic

variable {c : Config} {s : Station} {sensor : Sensor} {address : UInt8}

/-- With distinct addresses, what goes to the address of a sensor is for that sensor. -/
theorem away_of_ne (hc : c.AddressesDistinct) (haddress : c.address? sensor = some address)
    {other : Sensor} {target : UInt8} (htarget : c.address? other = some target)
    (hother : other ≠ sensor) : target ≠ address := by
  rintro rfl
  exact hother (hc other sensor target htarget haddress)

/-- A driver does nothing while it is idle, and otherwise stays away from the idle sensor. -/
theorem idle_or_away {σ : Type} {m : SensorM σ} {target : UInt8} {other : Sensor}
    {resting : Resting} (hc : c.AddressesDistinct)
    (haddress : c.address? sensor = some address)
    (htarget : c.address? other = some target) (hm : m.Does (·.To (· = target)))
    (hquiet : resting = .idle → m.Does fun _ => False) (hidle : other = sensor → resting = .idle) :
    m.Does (·.To (· ≠ address)) := by
  by_cases hother : other = sensor
  · exact (hquiet (hidle hother)).mono fun _ h => h.elim
  · apply hm.mono
    intro action haction
    apply haction.mono
    rintro _ rfl
    exact away_of_ne hc haddress htarget hother

theorem update_idle_htu21d (d : Htu21d.Driver) (now : Micros) (h : d.cycle.resting = .idle) :
    (d.update now).Does fun _ => False := by
  rw [Htu21d.Driver.update, (resting_idle_iff _).mp h]
  trivial

theorem update_idle_ccs811 (d : Ccs811.Driver) (now : Micros) (h : d.cycle.resting = .idle) :
    (d.update now).Does fun _ => False := by
  rw [Ccs811.Driver.update, (resting_idle_iff _).mp h]
  trivial

theorem update_idle_bme68x (d : Bme68x.Driver) (now : Micros) (h : d.cycle.resting = .idle) :
    (d.update now).Does fun _ => False := by
  rw [Bme68x.Driver.update, (resting_idle_iff _).mp h]
  trivial

theorem readBaseline_idle (d : Ccs811.Driver) (h : d.cycle.resting = .idle) :
    d.readBaseline.Does fun _ => False := by
  rw [Ccs811.Driver.readBaseline, (resting_idle_iff _).mp h]
  trivial

theorem writeBaseline_idle (d : Ccs811.Driver) (baseline : UInt16) (h : d.cycle.resting = .idle) :
    (d.writeBaseline baseline).Does fun _ => False := by
  rw [Ccs811.Driver.writeBaseline, (resting_idle_iff _).mp h]
  trivial

theorem resting_of_isIdle {σ : Type} {cycle : σ → Cycle} {driver : Option σ} {d : σ}
    (h : IsIdle (driver.map cycle)) (hd : driver = some d) : (cycle d).resting = .idle := by
  obtain ⟨_, hd', hidle⟩ := isIdle_map.mp h
  obtain rfl := Option.some.inj (hd.symm.trans hd')
  exact hidle

theorem idle_feedEnvironment (hidle : s.Idle .ccs811) (htu21d : Option Htu21d.Driver) :
    (feedEnvironment { s with htu21d }).Idle .ccs811 := by
  rw [Idle, cycle?_feedEnvironment]
  exact hidle

theorem poll_away (hc : c.AddressesDistinct) (hs : Placed c s)
    (haddress : c.address? sensor = some address) (hidle : s.Idle sensor) (now : Micros) :
    (s.poll now).Does (·.To (· ≠ address)) := by
  apply poll_does
  · intro d hd
    apply idle_or_away hc haddress (hs.htu21d d hd) (d.update_does now) (update_idle_htu21d d now)
    rintro rfl
    exact resting_of_isIdle hidle hd
  · intro htu21d _ d hd
    have hplaced := finds_feedEnvironment (s := { s with htu21d }) hs.ccs811 d hd
    apply idle_or_away hc haddress hplaced (d.update_does now) (update_idle_ccs811 d now)
    rintro rfl
    exact resting_of_isIdle (idle_feedEnvironment hidle htu21d) hd
  · intro htu21d d hd
    rw [bme68x_feedEnvironment] at hd
    apply idle_or_away hc haddress (hs.bme68x d hd) (d.update_does now) (update_idle_bme68x d now)
    rintro rfl
    exact resting_of_isIdle hidle hd

/-- No call but a set-up goes to the address of an idle sensor, not even a baseline access. -/
theorem step_away (hc : c.AddressesDistinct) (hs : Placed c s)
    (haddress : c.address? sensor = some address) (hidle : s.Idle sensor) {call : Call}
    (hcall : ∀ now, call ≠ .init now) : (s.step call).Does (·.To (· ≠ address)) := by
  have hccs : ∀ {d : Ccs811.Driver}, s.ccs811 = some d → .ccs811 = sensor →
      d.cycle.resting = .idle := by
    rintro d hd rfl
    exact resting_of_isIdle hidle hd
  apply step_does
  · exact fun now hinit => absurd hinit (hcall now)
  · exact fun now _ => poll_away hc hs haddress hidle now
  · exact fun _ => baseline_does fun d hd =>
      idle_or_away hc haddress (hs.ccs811 d hd) d.readBaseline_does (readBaseline_idle d) (hccs hd)
  · exact fun record _ => restoreBaseline_does fun d hd =>
      idle_or_away hc haddress (hs.ccs811 d hd) (d.writeBaseline_does record.baseline)
        (writeBaseline_idle d record.baseline) (hccs hd)

end Traffic

section Histories

variable {β : Type} [Bus β] {c : Config} {bus : β} {sensor : Sensor}

/-- The set-up of the sensor, were the station to be set up after these calls. -/
def attemptAfter (c : Config) (bus : β) (calls : List Call) (now : Micros) (sensor : Sensor) :
    Option (Except SensorError Unit) :=
  let h := history c bus calls
  (h.state.attempts now h.bus).result sensor

/-- No set-up of the sensor has succeeded, as the bus was when each of them was made. -/
def NeverReady (c : Config) (bus : β) (calls : List Call) (sensor : Sensor) : Prop :=
  Throughout (fun before call =>
    ∀ now, call = .init now → attemptAfter c bus before now sensor ≠ some (.ok ())) calls

theorem neverReady_concat (c : Config) (bus : β) (calls : List Call) (call : Call)
    (sensor : Sensor) :
    NeverReady c bus (calls ++ [call]) sensor ↔ NeverReady c bus calls sensor ∧
      ∀ now, call = .init now → attemptAfter c bus calls now sensor ≠ some (.ok ()) := by
  simp [NeverReady, throughout_append, throughout_cons, throughout_nil]

theorem history_concat (c : Config) (bus : β) (calls : List Call) (call : Call) :
    history c bus (calls ++ [call]) = (history c bus calls).call step call :=
  History.play_concat _ calls call

theorem isIdle_new {σ : Type} {cycle : σ → Cycle} {enabled : Bool} {d : σ}
    (hd : (cycle d).resting = .idle) :
    IsIdle ((if enabled then some d else none).map cycle) ↔ enabled = true := by
  rw [isIdle_map]
  cases enabled <;> simp [hd]

theorem idle_ofConfig (c : Config) (sensor : Sensor) :
    (ofConfig c).Idle sensor ↔ c.address? sensor ≠ none := by
  cases sensor with
  | htu21d => exact (isIdle_new rfl).trans (by simp [Config.address?])
  | ccs811 => exact (isIdle_new rfl).trans (by simp [Config.address?])
  | bme68x => exact (isIdle_new rfl).trans (by simp [Config.address?])

theorem placed_history (c : Config) (bus : β) (calls : List Call) :
    Placed c (history c bus calls).state :=
  History.invariant (fun _ s => Placed c s) step_always (fun _ _ _ _ _ h hstep => h.step hstep)
    (placed_ofConfig c) calls

/-- A sensor is idle exactly as long as none of its own set-ups has succeeded. -/
theorem idle_history_iff (calls : List Call) :
    (history c bus calls).state.Idle sensor ↔
      c.address? sensor ≠ none ∧ NeverReady c bus calls sensor := by
  induction calls using List.reverseRecOn with
  | nil =>
    have hnever : NeverReady c bus [] sensor := throughout_nil _
    rw [and_iff_left hnever]
    exact idle_ofConfig c sensor
  | append_singleton calls call ih =>
    rw [neverReady_concat, ← and_assoc, ← ih, history_concat]
    by_cases hset : ∃ now, call = .init now
    · obtain ⟨now, rfl⟩ := hset
      have hinit := setUp_init (history c bus calls).state now (history c bus calls).bus sensor
      have hnow : (∀ time, Call.init now = .init time →
          attemptAfter c bus calls time sensor ≠ some (.ok ())) ↔
            attemptAfter c bus calls now sensor ≠ some (.ok ()) := by
        constructor
        · intro h
          exact h now rfl
        · rintro h time ⟨rfl⟩
          exact h
      rw [hnow]
      refine Iff.trans ?_ hinit.isIdle_iff
      rw [History.call, step, BusM.run_map]
      rfl
    · have hcall : ∀ now, call ≠ .init now := fun now hnow => hset ⟨now, hnow⟩
      rw [and_iff_left fun now hinit => absurd hinit (hcall now)]
      exact Step.idle_iff ((step_always _ call).run _) hcall sensor

/-- Setting the station up tries every enabled sensor in turn, each on the bus that the ones before
it left and whatever became of them, and returns the first error. A sensor whose own set-up succeeds
waits for its interval from then on; one whose set-up fails is left as it was. So a sensor is idle
exactly until one of its own set-ups succeeds, and until then no call but a set-up goes to its
address. -/
theorem init_tries_every_sensor :
    (∀ (s : Station) (now : Micros) (bus : β),
      let tried := s.attempts now bus
      let run := (s.init now).run bus
      run.bus = tried.bme68x.bus ∧ run.exchanges = tried.exchanges ∧
      (∀ sensor, SetUp now (s.cycle? sensor) (tried.result sensor)
        (run.value.2.cycle? sensor)) ∧
      run.value.1 = tried.verdict ∧
      (run.value.1 = .ok () ↔ ∀ sensor error, tried.result sensor ≠ some (.error error))) ∧
    ∀ (c : Config) (bus : β) (calls : List Call) (sensor : Sensor),
      let h := history c bus calls
      (h.state.Idle sensor ↔ c.address? sensor ≠ none ∧ NeverReady c bus calls sensor) ∧
      (c.AddressesDistinct → h.state.Idle sensor → ∀ call, (∀ now, call ≠ .init now) →
        ∀ x ∈ (h.episode step call).exchanges, c.address? sensor ≠ some x.address) := by
  refine ⟨fun s now bus => ?_, fun c bus calls sensor => ⟨idle_history_iff calls, ?_⟩⟩
  · intro tried run
    obtain ⟨hbus, hexchanges, hvalue⟩ := yields_init s now bus
    have hverdict : run.value.1 = tried.verdict := congrArg Prod.fst hvalue
    refine ⟨hbus, hexchanges, setUp_init s now bus, hverdict, ?_⟩
    rw [hverdict]
    exact tried.verdict_eq_ok_iff
  · intro hc hidle call hcall x hx haddress
    have haway := step_away hc (placed_history c bus calls) haddress hidle hcall
    have hactions := ((BusM.does_iff_always _ _).mp haway).run (history c bus calls).bus
    exact hactions _ (Action.mem_exchanges.mp hx) rfl

/-- A device that answers zeros is not a CCS811: it is tried, and then left alone. -/
theorem init_tries_every_sensor_mistaken :
    let h := history .standard (zeroBus fun _ => true) [.init 0]
    h.state.Idle .ccs811 ∧ ¬ h.state.Idle .htu21d ∧
      ∀ x ∈ (h.episode step (.poll 1000000)).exchanges, some 0x5A ≠ some x.address := by
  intro h
  have hdistinct : Config.standard.AddressesDistinct := by
    intro sensor other address hsensor hother
    have hsame := hsensor.trans hother.symm
    revert hsame
    cases sensor <;> cases other <;> decide
  have hidle : h.state.Idle .ccs811 := ⟨.ofInterval 1000000, by decide +kernel⟩
  have hready : h.state.cycle? .htu21d = some ⟨.waiting, (PollTimer.ofInterval 1000000)⟩ := by
    decide +kernel
  refine ⟨hidle, ?_, ?_⟩
  · rintro ⟨timer, htimer⟩
    rw [hready] at htimer
    nomatch htimer
  · exact ((init_tries_every_sensor.2 .standard _ [.init 0] .ccs811).2 hdistinct hidle)
      (.poll 1000000) fun now hinit => nomatch hinit

/-- A station that only has an HTU21D, which was set up, fails to set it up again. The sensor is not
idle, and the next poll goes to it. -/
theorem failed_init_keeps_running :
    let h := history htu21dOnly { SimulatedBus.empty with htu21d := some .standard } [.init 0]
    let run := (h.state.init 1000).run (h.bus.failNext 0x40)
    (∃ error, (h.state.attempts 1000 (h.bus.failNext 0x40)).result .htu21d =
      some (.error error)) ∧
      ¬ run.value.2.Idle .htu21d ∧
      ((run.value.2.poll 2000000).run run.bus).exchanges.map (·.address) = [0x40] := by
  intro h run
  have hcycle : run.value.2.cycle? .htu21d = some ⟨.waiting, .ofInterval 1000000⟩ := by
    decide +kernel
  refine ⟨⟨_, rfl⟩, ?_, by decide +kernel⟩
  rintro ⟨timer, htimer⟩
  rw [hcycle] at htimer
  nomatch htimer

end Histories

end Station

end AirStation
