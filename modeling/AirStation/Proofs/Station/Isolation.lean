import AirStation.Proofs.Bus.Split
import AirStation.Proofs.Station.Steps

/-!
Sensors that share the bus do not interfere. Two stations are run side by side with the same calls,
and some of their sensors are watched: they are configured alike, and the buses agree at their
addresses. Every call then keeps the watched sensors equal (`step_same`), because each driver stays
at its own address and the sensors meet only where the climate is handed over.

The set of watched sensors has to be closed in one respect: whoever watches the CCS811 watches the
HTU21D as well. The sensors that are not watched may differ in any way, be absent on one side, or
fail on the other.
-/

namespace AirStation

namespace Config

/-- Where an enabled sensor is found. A sensor that is not enabled has no address. -/
def address? (c : Config) : Sensor → Option UInt8
  | .htu21d => if c.htu21d.enabled then some Htu21d.address else none
  | .ccs811 => if c.ccs811.enabled then some c.ccs811.address else none
  | .bme68x => if c.bme68x.enabled then some c.bme68x.address else none

theorem address?_htu21d {c : Config} {address : UInt8} :
    c.address? .htu21d = some address ↔ c.htu21d.enabled = true ∧ Htu21d.address = address := by
  simp [address?]

theorem address?_ccs811 {c : Config} {address : UInt8} :
    c.address? .ccs811 = some address ↔ c.ccs811.enabled = true ∧ c.ccs811.address = address := by
  simp [address?]

theorem address?_bme68x {c : Config} {address : UInt8} :
    c.address? .bme68x = some address ↔ c.bme68x.enabled = true ∧ c.bme68x.address = address := by
  simp [address?]

/-- No two enabled sensors share an address. Those that are not enabled may have any. -/
def AddressesDistinct (c : Config) : Prop :=
  ∀ sensor other address, c.address? sensor = some address → c.address? other = some address →
    sensor = other

/-- A driver, if there is one, is where the configuration has its sensor. -/
def Finds {σ : Type} (c : Config) (sensor : Sensor) (address : σ → UInt8) (driver : Option σ) :
    Prop :=
  ∀ d, driver = some d → c.address? sensor = some (address d)

theorem Finds.kept {σ : Type} {c : Config} {sensor : Sensor} {address : σ → UInt8}
    {driver : Option σ} {d d' : σ} (h : c.Finds sensor address driver) (hd : driver = some d)
    (haddress : address d' = address d) : c.address? sensor = some (address d') := by
  rw [haddress]
  exact h d hd

/-- The watched sensors are configured alike in the two configurations, which may differ in
everything else. -/
structure AgreeOn (who : Sensor → Bool) (c c' : Config) : Prop where
  htu21d : who .htu21d = true → c.htu21d = c'.htu21d
  ccs811 : who .ccs811 = true → c.ccs811 = c'.ccs811
  bme68x : who .bme68x = true → c.bme68x = c'.bme68x

theorem AgreeOn.address?_eq {who : Sensor → Bool} {c c' : Config} (h : AgreeOn who c c')
    {sensor : Sensor} (hwho : who sensor = true) : c.address? sensor = c'.address? sensor := by
  cases sensor with
  | htu21d => simp [address?, h.htu21d hwho]
  | ccs811 => simp [address?, h.ccs811 hwho]
  | bme68x => simp [address?, h.bme68x hwho]

/-- The addresses of the watched sensors, as far as these are enabled. -/
def watchedBy (c : Config) (who : Sensor → Bool) (address : UInt8) : Bool :=
  [Sensor.htu21d, .ccs811, .bme68x].any fun sensor =>
    who sensor && c.address? sensor == some address

theorem watchedBy_iff {c : Config} {who : Sensor → Bool} {address : UInt8} :
    c.watchedBy who address = true ↔
      ∃ sensor, who sensor = true ∧ c.address? sensor = some address := by
  simp only [watchedBy, List.any_cons, List.any_nil, Bool.or_false, Bool.or_eq_true,
    Bool.and_eq_true, beq_iff_eq]
  constructor
  · rintro (h | h | h)
    · exact ⟨_, h⟩
    · exact ⟨_, h⟩
    · exact ⟨_, h⟩
  · rintro ⟨sensor, h⟩
    cases sensor with
    | htu21d => exact .inl h
    | ccs811 => exact .inr (.inl h)
    | bme68x => exact .inr (.inr h)

/-- At the address of an enabled sensor, being watched is a matter of the sensor: no address is
watched for one sensor and used by another. -/
def Separates (c : Config) (who : Sensor → Bool) (watched : UInt8 → Bool) : Prop :=
  ∀ sensor address, c.address? sensor = some address → watched address = who sensor

theorem AgreeOn.separates {who : Sensor → Bool} {c c' : Config} (h : AgreeOn who c c')
    (hc' : c'.AddressesDistinct) : c'.Separates who (c.watchedBy who) := by
  intro sensor address haddress
  rw [Bool.eq_iff_iff, watchedBy_iff]
  constructor
  · rintro ⟨other, hother, hat⟩
    rw [h.address?_eq hother] at hat
    rw [hc' sensor other address haddress hat]
    exact hother
  · intro hwho
    exact ⟨sensor, hwho, (h.address?_eq hwho).trans haddress⟩

end Config

namespace Station

/-- Every driver is at the address of its sensor, and a sensor that is not enabled has no driver. -/
structure Placed (c : Config) (s : Station) : Prop where
  htu21d : c.Finds .htu21d (fun _ => Htu21d.address) s.htu21d
  ccs811 : c.Finds .ccs811 (·.address) s.ccs811
  bme68x : c.Finds .bme68x (·.address) s.bme68x

theorem placed_ofConfig (c : Config) : Placed c (ofConfig c) := by
  constructor
  · intro d hd
    by_cases henabled : c.htu21d.enabled
    · simp [Config.address?, henabled]
    · simp [ofConfig, henabled] at hd
  · intro d hd
    by_cases henabled : c.ccs811.enabled
    · simp [ofConfig, henabled] at hd
      simp [Config.address?, henabled, ← hd, Ccs811.Driver.create]
    · simp [ofConfig, henabled] at hd
  · intro d hd
    by_cases henabled : c.bme68x.enabled
    · simp [ofConfig, henabled] at hd
      simp [Config.address?, henabled, ← hd, Bme68x.Driver.create]
    · simp [ofConfig, henabled] at hd

@[simp] theorem htu21d_feedEnvironment (s : Station) : (feedEnvironment s).htu21d = s.htu21d := by
  unfold feedEnvironment
  repeat' split
  all_goals rfl

@[simp] theorem bme68x_feedEnvironment (s : Station) : (feedEnvironment s).bme68x = s.bme68x := by
  unfold feedEnvironment
  repeat' split
  all_goals rfl

/-- Of the CCS811, feeding changes no more than the environment that it has been told. -/
theorem ccs811_feedEnvironment (s : Station) :
    (feedEnvironment s).ccs811 = s.ccs811 ∨
      ∃ d temperature humidity, s.ccs811 = some d ∧
        (feedEnvironment s).ccs811 = some (d.setEnvironment temperature humidity) := by
  unfold feedEnvironment
  split
  · rename_i ccs _ _ hccs
    split
    · split
      · exact .inl rfl
      · exact .inr ⟨ccs, _, _, hccs, rfl⟩
    · exact .inl rfl
  · exact .inl rfl

theorem finds_feedEnvironment {c : Config} {s : Station}
    (h : c.Finds .ccs811 (·.address) s.ccs811) :
    c.Finds .ccs811 (·.address) (feedEnvironment s).ccs811 := by
  rcases ccs811_feedEnvironment s with hsame | ⟨d, _, _, hd, hfed⟩
  · rwa [hsame]
  · rw [hfed]
    rintro _ ⟨rfl⟩
    exact h d hd

theorem Placed.step {c : Config} {s s' : Station} {call : Call} {actions : List (Action Event)}
    (h : Placed c s) (hstep : s.Step call actions s') : Placed c s' := by
  cases call with
  | init now =>
    cases hstep with
    | mk hhtu hccs hbme hclosing =>
      constructor
      · intro d' hd'
        obtain ⟨d, _, _, hd, _⟩ := hhtu.origin hd'
        exact h.htu21d d hd
      · intro d' hd'
        obtain ⟨d, _, _, hd, hinit⟩ := hccs.origin hd'
        exact h.ccs811.kept hd hinit.pendingEnvironment_eq.1
      · intro d' hd'
        obtain ⟨d, _, _, hd, hinit, _⟩ := hbme.origin hd'
        exact h.bme68x.kept hd hinit.address_eq
  | poll now =>
    cases hstep with
    | mk hhtu hfed hccs hbme =>
      subst hfed
      constructor
      · intro d' hd'
        rw [htu21d_feedEnvironment] at hd'
        obtain rfl : _ = some d' := hd'
        obtain ⟨d, hd, _⟩ := hhtu.origin
        exact h.htu21d d hd
      · rintro d' ⟨rfl⟩
        obtain ⟨d, hd, hupdate⟩ := hccs.origin
        apply Config.Finds.kept ?_ hd hupdate.address_eq
        exact finds_feedEnvironment h.ccs811
      · rintro d' ⟨rfl⟩
        obtain ⟨d, hd, hupdate, _⟩ := hbme.origin
        rw [bme68x_feedEnvironment] at hd
        exact h.bme68x.kept hd hupdate.address_eq
  | baseline =>
    cases hstep with
    | absent => exact h
    | present hccs hread =>
      refine ⟨h.htu21d, ?_, h.bme68x⟩
      rintro d' ⟨rfl⟩
      exact h.ccs811.kept hccs hread.pendingEnvironment_eq.1
  | restoreBaseline record =>
    cases hstep with
    | absent => exact h
    | present hccs hwritten =>
      refine ⟨h.htu21d, ?_, h.bme68x⟩
      rintro d' ⟨rfl⟩
      exact h.ccs811.kept hccs hwritten.pendingEnvironment_eq.1

/-- The watched sensors are in the same state. What the CCS811 is told belongs to its state. -/
structure Related (who : Sensor → Bool) (s s' : Station) : Prop where
  htu21d : who .htu21d = true → s.htu21d = s'.htu21d
  ccs811 : who .ccs811 = true → s.ccs811 = s'.ccs811
  bme68x : who .bme68x = true → s.bme68x = s'.bme68x
  feeding : who .ccs811 = true →
    s.environmentCompensation = s'.environmentCompensation ∧
      s.compensatedFrom = s'.compensatedFrom

theorem feedEnvironment_with (s : Station) (bme68x : Option Bme68x.Driver)
    (tuning : AirQuality.Tuning) :
    feedEnvironment { s with bme68x, tuning } = { feedEnvironment s with bme68x, tuning } := by
  unfold feedEnvironment
  dsimp only
  split
  · split
    · split <;> rfl
    · rfl
  · rfl

theorem Related.feed {who : Sensor → Bool} {s s' : Station} (h : Related who s s')
    (hclosed : who .ccs811 = true → who .htu21d = true) :
    Related who (feedEnvironment s) (feedEnvironment s') := by
  have hsame : who .ccs811 = true → feedEnvironment s =
      { feedEnvironment s' with bme68x := s.bme68x, tuning := s.tuning } := by
    intro hccs
    obtain ⟨hcompensation, hfrom⟩ := h.feeding hccs
    rw [← feedEnvironment_with, ← h.htu21d (hclosed hccs), ← h.ccs811 hccs, ← hcompensation,
      ← hfrom]
  constructor
  · simpa using h.htu21d
  · intro hccs
    rw [hsame hccs]
  · simpa using h.bme68x
  · intro hccs
    rw [hsame hccs]
    exact ⟨rfl, rfl⟩

/-- Given a driver or none, the computation goes to no address but that of the driver. -/
def StaysWith {σ γ : Type} (address : σ → UInt8) (m : Option σ → SensorM γ) : Prop :=
  ∀ (p : UInt8 → Prop) driver, (∀ d, driver = some d → p (address d)) →
    (m driver).Does (·.To p)

theorem staysWith_updateSensor {σ : Type} {address : σ → UInt8} {update : σ → SensorM σ}
    (hupdate : ∀ d, (update d).Does (·.To (· = address d))) :
    StaysWith address (updateSensor update) := by
  intro p driver hp
  cases driver with
  | none => trivial
  | some d =>
    apply (hupdate d).to_bind (hp d rfl)
    intro d'
    trivial

theorem staysWith_initSensor {σ : Type} {address : σ → UInt8}
    {init : σ → SensorM (Except SensorError Unit × σ)}
    (hinit : ∀ d, (init d).Does (·.To (· = address d))) :
    StaysWith address (initSensor init) := by
  intro p driver hp
  cases driver with
  | none => trivial
  | some d =>
    apply (hinit d).to_bind (hp d rfl)
    rintro ⟨result, d'⟩
    cases result with
    | error error => exact ⟨trivial, trivial⟩
    | ok _ => trivial

/-- A baseline access as seen by the CCS811 alone, with an answer for a station that has none. -/
def accessSensor {ρ : Type} (access : Ccs811.Driver → SensorM (ρ × Ccs811.Driver)) (absent : ρ) :
    Option Ccs811.Driver → SensorM (ρ × Option Ccs811.Driver)
  | none => return (absent, none)
  | some ccs => do
    let (result, ccs) ← access ccs
    return (result, some ccs)

def readRecord (d : Ccs811.Driver) :
    SensorM (Except SensorError (Option BaselineRecord) × Ccs811.Driver) := do
  let (result, d) ← d.readBaseline
  return (result.map (some ∘ .ofBaseline), d)

theorem baseline_eq (s : Station) :
    s.baseline = (fun outcome => (outcome.1, { s with ccs811 := outcome.2 })) <$>
      accessSensor readRecord (.ok none) s.ccs811 := by
  unfold baseline
  cases hccs : s.ccs811 with
  | none => simp [accessSensor, ← hccs]
  | some ccs => simp [accessSensor, readRecord]

theorem restoreBaseline_eq (s : Station) (record : BaselineRecord) :
    s.restoreBaseline record = (fun outcome => (outcome.1, { s with ccs811 := outcome.2 })) <$>
      accessSensor (·.writeBaseline record.baseline) (.ok ()) s.ccs811 := by
  unfold restoreBaseline
  cases hccs : s.ccs811 with
  | none => simp [accessSensor, ← hccs]
  | some ccs => simp [accessSensor]

theorem staysWith_accessSensor {ρ : Type} {access : Ccs811.Driver → SensorM (ρ × Ccs811.Driver)}
    (haccess : ∀ d, (access d).Does (·.To (· = d.address))) (absent : ρ) :
    StaysWith (·.address) (accessSensor access absent) := by
  intro p driver hp
  cases driver with
  | none => trivial
  | some d =>
    apply (haccess d).to_bind (hp d rfl)
    intro outcome
    trivial

section Calls

variable {who : Sensor → Bool} {watched : UInt8 → Bool} {c c' : Config} {s s' : Station}

/-- With one driver on either side, a watched sensor does the same on both and an unwatched one goes
to no watched address. -/
theorem StaysWith.same {σ γ : Type} {address : σ → UInt8} {m : Option σ → SensorM γ}
    (hm : StaysWith address m) (hc : c.Separates who watched) (hc' : c'.Separates who watched)
    {sensor : Sensor} {driver driver' : Option σ} (hdriver : c.Finds sensor address driver)
    (hdriver' : c'.Finds sensor address driver') (heq : who sensor = true → driver = driver') :
    (m driver).Same watched (m driver') fun value value' =>
      who sensor = true → value = value' := by
  apply BusM.same_of_flag (who sensor)
  · intro hwho
    rw [heq hwho]
  · exact hm _ driver fun d hd => hc sensor _ (hdriver d hd)
  · exact hm _ driver' fun d hd => hc' sensor _ (hdriver' d hd)

theorem poll_same (hclosed : who .ccs811 = true → who .htu21d = true)
    (hc : c.Separates who watched) (hc' : c'.Separates who watched)
    (hs : Placed c s) (hs' : Placed c' s') (h : Related who s s') (now : Micros) :
    (s.poll now).Same watched (s'.poll now) (Related who) := by
  have hhtuStays := staysWith_updateSensor fun d : Htu21d.Driver => d.update_does now
  have hccsStays := staysWith_updateSensor fun d : Ccs811.Driver => d.update_does now
  have hbmeStays := staysWith_updateSensor fun d : Bme68x.Driver => d.update_does now
  unfold poll
  refine (hhtuStays.same hc hc' hs.htu21d hs'.htu21d h.htu21d).bind fun htu htu' hhtu => ?_
  have hmiddle : Related who { s with htu21d := htu } { s' with htu21d := htu' } :=
    ⟨hhtu, h.ccs811, h.bme68x, h.feeding⟩
  have hfed := hmiddle.feed hclosed
  refine (hccsStays.same hc hc' ?_ ?_ hfed.ccs811).bind fun ccs ccs' hccs => ?_
  · exact finds_feedEnvironment hs.ccs811
  · exact finds_feedEnvironment hs'.ccs811
  refine (hbmeStays.same hc hc' ?_ ?_ hfed.bme68x).bind fun bme bme' hbme => ?_
  · simpa using hs.bme68x
  · simpa using hs'.bme68x
  · exact BusM.same_pure ⟨hfed.htu21d, hccs, hbme, hfed.feeding⟩

theorem init_same (hc : c.Separates who watched) (hc' : c'.Separates who watched)
    (hs : Placed c s) (hs' : Placed c' s') (h : Related who s s') (now : Micros) :
    (s.init now).Same watched (s'.init now) fun outcome outcome' =>
      Related who outcome.2 outcome'.2 := by
  have hhtuStays := staysWith_initSensor fun d : Htu21d.Driver => d.init_does now
  have hccsStays := staysWith_initSensor fun d : Ccs811.Driver => d.init_does now
  have hbmeStays := staysWith_initSensor fun d : Bme68x.Driver => d.init_does now
  unfold init
  refine (hhtuStays.same hc hc' hs.htu21d hs'.htu21d h.htu21d).bind fun htu htu' hhtu => ?_
  refine (hccsStays.same hc hc' hs.ccs811 hs'.ccs811 h.ccs811).bind fun ccs ccs' hccs => ?_
  refine (hbmeStays.same hc hc' hs.bme68x hs'.bme68x h.bme68x).bind fun bme bme' hbme => ?_
  have hafter : Related who { s with htu21d := htu.2, ccs811 := ccs.2, bme68x := bme.2 }
      { s' with htu21d := htu'.2, ccs811 := ccs'.2, bme68x := bme'.2 } :=
    ⟨fun hwho => congrArg Prod.snd (hhtu hwho), fun hwho => congrArg Prod.snd (hccs hwho),
      fun hwho => congrArg Prod.snd (hbme hwho), h.feeding⟩
  obtain ⟨htuError, htu21d⟩ := htu
  obtain ⟨htuError', htu21d'⟩ := htu'
  obtain ⟨ccsError, ccs811⟩ := ccs
  obtain ⟨ccsError', ccs811'⟩ := ccs'
  obtain ⟨bmeError, bme68x⟩ := bme
  obtain ⟨bmeError', bme68x'⟩ := bme'
  dsimp only
  -- The two results may differ, but the report of either stays off the bus.
  cases htuError <|> ccsError <|> bmeError <;> cases htuError' <|> ccsError' <|> bmeError' <;>
    exact fun _ _ _ => ⟨rfl, hafter⟩

theorem accessSensor_same {ρ : Type} {access : Ccs811.Driver → SensorM (ρ × Ccs811.Driver)}
    {absent : ρ} (haccess : ∀ d, (access d).Does (·.To (· = d.address)))
    (hc : c.Separates who watched) (hc' : c'.Separates who watched)
    (hs : Placed c s) (hs' : Placed c' s') (h : Related who s s') :
    ((fun outcome => (outcome.1, { s with ccs811 := outcome.2 })) <$>
      accessSensor access absent s.ccs811).Same watched
        ((fun outcome => (outcome.1, { s' with ccs811 := outcome.2 })) <$>
          accessSensor access absent s'.ccs811)
        fun outcome outcome' => Related who outcome.2 outcome'.2 := by
  have hstays := staysWith_accessSensor haccess absent
  apply BusM.Same.map
  apply (hstays.same hc hc' hs.ccs811 hs'.ccs811 h.ccs811).mono
  intro outcome outcome' heq
  exact ⟨h.htu21d, fun hwho => congrArg Prod.snd (heq hwho), h.bme68x, h.feeding⟩

/-- Every call keeps the watched sensors together, and so are their exchanges. -/
theorem step_same (hclosed : who .ccs811 = true → who .htu21d = true)
    (hc : c.Separates who watched) (hc' : c'.Separates who watched)
    (hs : Placed c s) (hs' : Placed c' s') (h : Related who s s') (call : Call) :
    (s.step call).Same watched (s'.step call) (Related who) := by
  cases call with
  | init now => exact .map (init_same hc hc' hs hs' h now)
  | poll now => exact poll_same hclosed hc hc' hs hs' h now
  | baseline =>
    apply BusM.Same.map
    rw [baseline_eq, baseline_eq]
    exact accessSensor_same (fun d => d.readBaseline_does.bind fun _ => trivial) hc hc' hs hs' h
  | restoreBaseline record =>
    apply BusM.Same.map
    rw [restoreBaseline_eq, restoreBaseline_eq]
    exact accessSensor_same (fun d => d.writeBaseline_does record.baseline) hc hc' hs hs' h

end Calls

/-- What there is to see of a sensor after a call: its driver, and what it did on the bus. -/
def view {σ : Type} (sensor : Station → Option σ) (address : UInt8)
    (e : Episode Event Station Call) : Option (σ × List Exchange) :=
  (sensor e.after).map fun d => (d, e.exchanges.filter (·.address == address))

theorem related_ofConfig {who : Sensor → Bool} {c c' : Config} (h : Config.AgreeOn who c c') :
    Related who (ofConfig c) (ofConfig c') := by
  constructor
  · intro hwho
    simp [ofConfig, h.htu21d hwho]
  · intro hwho
    simp [ofConfig, h.ccs811 hwho]
  · intro hwho
    simp [ofConfig, h.bme68x hwho]
  · intro hwho
    simp [ofConfig, h.ccs811 hwho]

/-- Histories whose buses agree at the addresses of the watched sensors show the same of each. -/
theorem view_history_eq {σ : Type} {sensor : Station → Option σ} {address : UInt8}
    (who : Sensor → Bool) {c c' : Config} (hc : c.AddressesDistinct) (hc' : c'.AddressesDistinct)
    {b b' : SplitBus} (hsensor : ∀ s s', Related who s s' → sensor s = sensor s')
    (haddress : ∀ s d, Placed c s → sensor s = some d → c.watchedBy who address = true)
    (hclosed : who .ccs811 = true → who .htu21d = true) (hconfig : Config.AgreeOn who c c')
    (hbus : b.Alike (c.watchedBy who) b') (calls : List Call) :
    (history c b calls).past.map (view sensor address) =
      (history c' b' calls).past.map (view sensor address) := by
  have hseparates : c.Separates who (c.watchedBy who) :=
    Config.AgreeOn.separates ⟨fun _ => rfl, fun _ => rfl, fun _ => rfl⟩ hc
  have hseparates' : c'.Separates who (c.watchedBy who) := hconfig.separates hc'
  unfold history
  apply History.map_past_eq (R := fun s s' => Placed c s ∧ Placed c' s' ∧ Related who s s')
  · rintro s s' call ⟨hs, hs', h⟩
    have hsame := step_same hclosed hseparates hseparates' hs hs' h call
    have hplaced : (s.step call).Always fun _ => Placed c :=
      (s.step_always call).mono fun _ _ hstep => hs.step hstep
    have hplaced' : (s'.step call).Always fun _ => Placed c' :=
      (s'.step_always call).mono fun _ _ hstep => hs'.step hstep
    exact hsame.and_always hplaced hplaced'
  · rintro e e' ⟨hplaced, -, h⟩ hexchanges
    unfold view
    rw [← hsensor _ _ h]
    cases hd : sensor e.after with
    | none => rfl
    | some d =>
      have hwatched : c.watchedBy who address = true := haddress _ d hplaced hd
      rw [← filter_exchangesAt hwatched, hexchanges, filter_exchangesAt hwatched]
  · exact ⟨placed_ofConfig c, placed_ofConfig c', related_ofConfig hconfig⟩
  · exact hbus
  · rfl

/-- Two stations take the same calls over buses on which every address answers by its own past.
Whatever else the two differ in, a sensor with the same configuration and the same answers
goes through the same states and the same traffic; for the CCS811, which is told the climate, the
HTU21D has to be the same as well. -/
theorem sensors_do_not_interfere (c c' : Config) (b b' : SplitBus) (calls : List Call)
    (hc : c.AddressesDistinct) (hc' : c'.AddressesDistinct) :
    let past := (history c b calls).past
    let past' := (history c' b' calls).past
    (c.htu21d = c'.htu21d → b.AgreeAt Htu21d.address b' →
      past.map (view (·.htu21d) Htu21d.address) = past'.map (view (·.htu21d) Htu21d.address)) ∧
    (c.bme68x = c'.bme68x → b.AgreeAt c.bme68x.address b' →
      past.map (view (·.bme68x) c.bme68x.address) =
        past'.map (view (·.bme68x) c.bme68x.address)) ∧
    (c.htu21d = c'.htu21d → c.ccs811 = c'.ccs811 →
      (c.htu21d.enabled = true → b.AgreeAt Htu21d.address b') →
      b.AgreeAt c.ccs811.address b' →
      past.map (view (·.ccs811) c.ccs811.address) =
        past'.map (view (·.ccs811) c.ccs811.address)) := by
  intro past past'
  refine ⟨?_, ?_, ?_⟩
  · intro hconfig hagree
    apply view_history_eq (· == .htu21d) hc hc'
    · intro s s' h
      exact h.htu21d rfl
    · intro s d hs hd
      exact Config.watchedBy_iff.mpr ⟨.htu21d, rfl, hs.htu21d d hd⟩
    · exact nofun
    · exact ⟨fun _ => hconfig, nofun, nofun⟩
    · intro address haddress
      obtain ⟨sensor, hsensor, hat⟩ := Config.watchedBy_iff.mp haddress
      obtain rfl := eq_of_beq hsensor
      obtain ⟨-, rfl⟩ := Config.address?_htu21d.mp hat
      exact hagree
  · intro hconfig hagree
    apply view_history_eq (· == .bme68x) hc hc'
    · intro s s' h
      exact h.bme68x rfl
    · intro s d hs hd
      have hplaced := hs.bme68x d hd
      rw [← (Config.address?_bme68x.mp hplaced).2] at hplaced
      exact Config.watchedBy_iff.mpr ⟨.bme68x, rfl, hplaced⟩
    · exact nofun
    · exact ⟨nofun, nofun, fun _ => hconfig⟩
    · intro address haddress
      obtain ⟨sensor, hsensor, hat⟩ := Config.watchedBy_iff.mp haddress
      obtain rfl := eq_of_beq hsensor
      obtain ⟨-, rfl⟩ := Config.address?_bme68x.mp hat
      exact hagree
  · intro hhtu hccs hagreeHtu hagreeCcs
    apply view_history_eq (· != .bme68x) hc hc'
    · intro s s' h
      exact h.ccs811 rfl
    · intro s d hs hd
      have hplaced := hs.ccs811 d hd
      rw [← (Config.address?_ccs811.mp hplaced).2] at hplaced
      exact Config.watchedBy_iff.mpr ⟨.ccs811, rfl, hplaced⟩
    · exact fun _ => rfl
    · exact ⟨fun _ => hhtu, fun _ => hccs, nofun⟩
    · intro address haddress
      obtain ⟨sensor, hsensor, hat⟩ := Config.watchedBy_iff.mp haddress
      cases sensor with
      | htu21d =>
        obtain ⟨henabled, rfl⟩ := Config.address?_htu21d.mp hat
        exact hagreeHtu henabled
      | ccs811 =>
        obtain ⟨-, rfl⟩ := Config.address?_ccs811.mp hat
        exact hagreeCcs
      | bme68x => exact absurd hsensor (by decide)

/-- A bus of devices that answer every read with zeros, except that those outside the given
addresses are not there. -/
def zeroBus (present : UInt8 → Bool) : SplitBus where
  answer address _ _ :=
    if present address then .ok (Vector.replicate _ 0) else .error .addressNack
  past := []

/-- The standard configuration without the other two sensors. -/
def htu21dOnly : Config :=
  { Config.standard with
    ccs811 := { Config.standard.ccs811 with enabled := false }
    bme68x := { Config.standard.bme68x with enabled := false } }

theorem sensors_do_not_interfere_alone :
    let calls : List Call := [.init 0, .poll 1000000, .poll 1050000, .poll 1066000]
    let h := history .standard (zeroBus fun _ => true) calls
    let h' := history htu21dOnly (zeroBus (· == Htu21d.address)) calls
    h.past.map (view (·.htu21d) Htu21d.address) = h'.past.map (view (·.htu21d) Htu21d.address) ∧
      h'.state.htu21d.bind (·.timer.lastSuccess) = some 1066000 := by
  intro calls h h'
  have hdistinct : Config.standard.AddressesDistinct := by
    intro sensor other address hsensor hother
    have hsame := hsensor.trans hother.symm
    revert hsame
    cases sensor <;> cases other <;> decide
  have hdistinct' : htu21dOnly.AddressesDistinct := by
    rintro (_ | _ | _) (_ | _ | _) address hsensor hother
    all_goals simp_all [Config.address?, htu21dOnly]
  refine ⟨?_, by decide +kernel⟩
  exact (sensors_do_not_interfere .standard htu21dOnly _ _ calls hdistinct hdistinct').1 rfl
    ⟨rfl, rfl⟩

end Station

end AirStation
