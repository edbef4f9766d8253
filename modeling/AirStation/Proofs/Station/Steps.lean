import AirStation.Proofs.Bme68x.Steps
import AirStation.Proofs.Ccs811.Steps
import AirStation.Proofs.Htu21d.Steps
import AirStation.Station

/-!
Everything a call on the station can do, said with the outcome lists of its drivers. A sensor that
is not there takes part with no action. The actions of a call are those of the sensors one after
another, and between the first two of them a poll hands the climate over.

What is proved of a station elsewhere starts from these lists, or from the rules at the end, which
say when all actions of a call have some property. Neither of them mentions how a call is
programmed.
-/

namespace AirStation.Station

/-- What a station is asked to do; the time is that of the caller's clock. -/
inductive Call where
  | init (now : Micros)
  | poll (now : Micros)
  | baseline
  | restoreBaseline (record : BaselineRecord)

/-- The time of a call. Baseline accesses do not look at the clock. -/
def Call.time? : Call → Option Micros
  | .init now => some now
  | .poll now => some now
  | _ => none

def step (s : Station) : Call → SensorM Station
  | .init now => Prod.snd <$> s.init now
  | .poll now => s.poll now
  | .baseline => Prod.snd <$> s.baseline
  | .restoreBaseline record => Prod.snd <$> s.restoreBaseline record

def history {β : Type} [Bus β] (config : Config) (bus : β) (calls : List Call) :
    History β Event Station Call :=
  (History.start (ofConfig config) bus).play step calls

section Sensors

variable {σ : Type}

/-- A set-up of a sensor, which reports its failure and is passed over if the sensor is not
there. -/
inductive InitSensor (R : σ → List (Action Event) → Except SensorError Unit × σ → Prop) :
    Option σ → List (Action Event) → Option SensorError × Option σ → Prop where
  | absent : InitSensor R none [] (none, none)
  | ready {d d' : σ} {actions : List (Action Event)} (h : R d actions (.ok (), d')) :
    InitSensor R (some d) actions (none, some d')
  | failed {d d' : σ} {actions : List (Action Event)} (error : SensorError)
      (h : R d actions (.error error, d')) :
    InitSensor R (some d) (actions ++ [.reported (.initFailed error)]) (some error, some d')

/-- An update of a sensor, or nothing if it is not there. -/
inductive UpdateSensor (R : σ → List (Action Event) → σ → Prop) :
    Option σ → List (Action Event) → Option σ → Prop where
  | absent : UpdateSensor R none [] none
  | present {d d' : σ} {actions : List (Action Event)} (h : R d actions d') :
    UpdateSensor R (some d) actions (some d')

theorem InitSensor.of_some {R : σ → List (Action Event) → Except SensorError Unit × σ → Prop}
    {d : σ} {actions : List (Action Event)} {outcome : Option SensorError × Option σ}
    (h : InitSensor R (some d) actions outcome) :
    ∃ inner result d', R d inner (result, d') ∧ outcome.2 = some d' := by
  cases h with
  | ready h => exact ⟨_, _, _, h, rfl⟩
  | failed error h => exact ⟨_, _, _, h, rfl⟩

theorem UpdateSensor.of_some {R : σ → List (Action Event) → σ → Prop} {d : σ}
    {actions : List (Action Event)} {sensor : Option σ}
    (h : UpdateSensor R (some d) actions sensor) : ∃ d', R d actions d' ∧ sensor = some d' := by
  cases h with
  | present h => exact ⟨_, h, rfl⟩

theorem InitSensor.origin {R : σ → List (Action Event) → Except SensorError Unit × σ → Prop}
    {sensor : Option σ} {actions : List (Action Event)} {outcome : Option SensorError × Option σ}
    (h : InitSensor R sensor actions outcome) {d' : σ} (hd' : outcome.2 = some d') :
    ∃ d inner result, sensor = some d ∧ R d inner (result, d') := by
  cases h with
  | absent => nomatch hd'
  | ready h => exact ⟨_, _, _, rfl, Option.some.inj hd' ▸ h⟩
  | failed error h => exact ⟨_, _, _, rfl, Option.some.inj hd' ▸ h⟩

theorem UpdateSensor.origin {R : σ → List (Action Event) → σ → Prop} {sensor : Option σ}
    {actions : List (Action Event)} {d' : σ} (h : UpdateSensor R sensor actions (some d')) :
    ∃ d, sensor = some d ∧ R d actions d' := by
  cases h with
  | present h => exact ⟨_, rfl, h⟩

theorem initSensor_always {init : σ → SensorM (Except SensorError Unit × σ)}
    {R : σ → List (Action Event) → Except SensorError Unit × σ → Prop}
    (hinit : ∀ d, (init d).Always (R d)) (sensor : Option σ) :
    (initSensor init sensor).Always (InitSensor R sensor) := by
  cases sensor with
  | none => exact .absent
  | some d =>
    refine (hinit d).bind fun actions outcome h => ?_
    obtain ⟨result, d'⟩ := outcome
    cases result with
    | error error => exact .failed error h
    | ok _ => simpa using .ready h

theorem updateSensor_always {update : σ → SensorM σ} {R : σ → List (Action Event) → σ → Prop}
    (hupdate : ∀ d, (update d).Always (R d)) (sensor : Option σ) :
    (updateSensor update sensor).Always (UpdateSensor R sensor) := by
  cases sensor with
  | none => exact .absent
  | some d => exact (BusM.always_map _ _ _).mpr ((hupdate d).mono fun _ _ h => .present h)

theorem InitSensor.isSome_eq
    {R : σ → List (Action Event) → Except SensorError Unit × σ → Prop} {sensor : Option σ}
    {actions : List (Action Event)} {outcome : Option SensorError × Option σ}
    (h : InitSensor R sensor actions outcome) : outcome.2.isSome = sensor.isSome := by
  cases h <;> rfl

theorem UpdateSensor.isSome_eq {R : σ → List (Action Event) → σ → Prop}
    {sensor sensor' : Option σ} {actions : List (Action Event)}
    (h : UpdateSensor R sensor actions sensor') : sensor'.isSome = sensor.isSome := by
  cases h <;> rfl

theorem initSensor_does {P : Action Event → Prop}
    {init : σ → SensorM (Except SensorError Unit × σ)} {sensor : Option σ}
    (hinit : ∀ d, sensor = some d → (init d).Does P) (hreport : ∀ event, P (.reported event)) :
    (initSensor init sensor).Does P := by
  cases sensor with
  | none => trivial
  | some d =>
    apply (hinit d rfl).bind
    rintro ⟨result, d'⟩
    cases result with
    | error error => exact ⟨hreport _, trivial⟩
    | ok _ => trivial

theorem updateSensor_does {P : Action Event → Prop} {update : σ → SensorM σ} {sensor : Option σ}
    (hupdate : ∀ d, sensor = some d → (update d).Does P) : (updateSensor update sensor).Does P := by
  cases sensor with
  | none => trivial
  | some d => exact (hupdate d rfl).bind fun _ => trivial

end Sensors

/-- The sensors are set up one after another, and only the last report speaks for the station. -/
inductive Init (s : Station) (now : Micros) : List (Action Event) → Station → Prop where
  | mk {first second third closing : List (Action Event)}
      {htu21d : Option SensorError × Option Htu21d.Driver}
      {ccs811 : Option SensorError × Option Ccs811.Driver}
      {bme68x : Option SensorError × Option Bme68x.Driver}
      (hhtu : InitSensor (·.Init now) s.htu21d first htu21d)
      (hccs : InitSensor (·.Init now) s.ccs811 second ccs811)
      (hbme : InitSensor (fun d actions outcome => d.Init now outcome ∧
        ∀ action ∈ actions, Bme68x.Proper d.address action) s.bme68x third bme68x)
      (hclosing : closing = [] ∨ closing = [.reported .allReady]) :
    Init s now (first ++ (second ++ (third ++ closing)))
      { s with htu21d := htu21d.2, ccs811 := ccs811.2, bme68x := bme68x.2 }

/-- The sensors are updated one after another; the CCS811 is updated after the new climate has been
handed to it. -/
inductive Poll (s : Station) (now : Micros) : List (Action Event) → Station → Prop where
  | mk {first second third : List (Action Event)} {htu21d : Option Htu21d.Driver}
      {ccs811 : Option Ccs811.Driver} {bme68x : Option Bme68x.Driver} {fed : Station}
      (hhtu : UpdateSensor (·.Update now) s.htu21d first htu21d)
      (hfed : fed = feedEnvironment { s with htu21d })
      (hccs : UpdateSensor (·.Update now) fed.ccs811 second ccs811)
      (hbme : UpdateSensor (fun d actions d' => d.Update now actions d' ∧
        ∀ action ∈ actions, Bme68x.Proper d.address action) fed.bme68x third bme68x) :
    Poll s now (first ++ (second ++ third)) { fed with ccs811, bme68x }

/-- An access to the baseline is a call on the CCS811 alone. -/
inductive Baseline (s : Station) : List (Action Event) → Station → Prop where
  | absent (hccs : s.ccs811 = none) : Baseline s [] s
  | present {ccs ccs' : Ccs811.Driver} {actions : List (Action Event)}
      {result : Except SensorError UInt16} (hccs : s.ccs811 = some ccs)
      (hread : ccs.ReadBaseline actions (result, ccs')) :
    Baseline s actions { s with ccs811 := some ccs' }

inductive RestoreBaseline (s : Station) (record : BaselineRecord) :
    List (Action Event) → Station → Prop where
  | absent (hccs : s.ccs811 = none) : RestoreBaseline s record [] s
  | present {ccs ccs' : Ccs811.Driver} {actions : List (Action Event)}
      {result : Except SensorError Unit} (hccs : s.ccs811 = some ccs)
      (hwritten : ccs.WriteBaseline record.baseline actions (result, ccs')) :
    RestoreBaseline s record actions { s with ccs811 := some ccs' }

def Step (s : Station) : Call → List (Action Event) → Station → Prop
  | .init now => s.Init now
  | .poll now => s.Poll now
  | .baseline => s.Baseline
  | .restoreBaseline record => s.RestoreBaseline record

theorem bme_init_always (d : Bme68x.Driver) (now : Micros) :
    (d.init now).Always fun actions outcome => d.Init now outcome ∧
      ∀ action ∈ actions, Bme68x.Proper d.address action :=
  (d.init_always now).and ((BusM.does_iff_always _ _).mp (d.init_proper now))

theorem bme_update_always (d : Bme68x.Driver) (now : Micros) :
    (d.update now).Always fun actions d' => d.Update now actions d' ∧
      ∀ action ∈ actions, Bme68x.Proper d.address action :=
  (d.update_always now).and ((BusM.does_iff_always _ _).mp (d.update_proper now))

theorem init_always (s : Station) (now : Micros) :
    (s.init now).Always fun actions outcome => s.Init now actions outcome.2 := by
  unfold init
  refine (initSensor_always (·.init_always now) s.htu21d).bind fun first htu hhtu => ?_
  refine (initSensor_always (·.init_always now) s.ccs811).bind fun second ccs hccs => ?_
  refine (initSensor_always (bme_init_always · now) s.bme68x).bind fun third bme hbme => ?_
  obtain ⟨htuError, htu21d⟩ := htu
  obtain ⟨ccsError, ccs811⟩ := ccs
  obtain ⟨bmeError, bme68x⟩ := bme
  dsimp only
  cases htuError <|> ccsError <|> bmeError with
  | some error => exact .mk hhtu hccs hbme (.inl rfl)
  | none => exact .mk hhtu hccs hbme (.inr rfl)

theorem poll_always (s : Station) (now : Micros) : (s.poll now).Always (s.Poll now) := by
  unfold poll
  refine (updateSensor_always (·.update_always now) s.htu21d).bind fun first htu21d hhtu => ?_
  refine (updateSensor_always (·.update_always now) _).bind fun second ccs811 hccs => ?_
  refine (updateSensor_always (bme_update_always · now) _).bind fun third bme68x hbme => ?_
  simpa using .mk hhtu rfl hccs hbme

theorem baseline_always (s : Station) :
    s.baseline.Always fun actions outcome => s.Baseline actions outcome.2 := by
  unfold baseline
  cases hccs : s.ccs811 with
  | none => exact .absent hccs
  | some ccs =>
    refine ccs.readBaseline_always.bind fun actions outcome hread => ?_
    simpa using .present hccs hread

theorem restoreBaseline_always (s : Station) (record : BaselineRecord) :
    (s.restoreBaseline record).Always fun actions outcome =>
      s.RestoreBaseline record actions outcome.2 := by
  unfold restoreBaseline
  cases hccs : s.ccs811 with
  | none => exact .absent hccs
  | some ccs =>
    refine (ccs.writeBaseline_always record.baseline).bind fun actions outcome hwritten => ?_
    simpa using .present hccs hwritten

/-- Every call has one of the listed outcomes, whatever the bus answers. -/
theorem step_always (s : Station) (c : Call) : (s.step c).Always (s.Step c) := by
  cases c with
  | init now => exact (BusM.always_map _ _ _).mpr (s.init_always now)
  | poll now => exact s.poll_always now
  | baseline => exact (BusM.always_map _ _ _).mpr s.baseline_always
  | restoreBaseline record => exact (BusM.always_map _ _ _).mpr (s.restoreBaseline_always record)

section Does

variable {P : Action Event → Prop} {s : Station} {now : Micros}

theorem init_does (hreport : ∀ event, P (.reported event))
    (hhtu : ∀ d, s.htu21d = some d → (d.init now).Does P)
    (hccs : ∀ d, s.ccs811 = some d → (d.init now).Does P)
    (hbme : ∀ d, s.bme68x = some d → (d.init now).Does P) : (s.init now).Does P := by
  unfold init
  refine (initSensor_does hhtu hreport).bind fun htu => ?_
  refine (initSensor_does hccs hreport).bind fun ccs => ?_
  refine (initSensor_does hbme hreport).bind fun bme => ?_
  dsimp only
  cases htu.1 <|> ccs.1 <|> bme.1 with
  | some error => trivial
  | none => exact ⟨hreport _, trivial⟩

theorem updateSensor_isSome {σ : Type} (update : σ → SensorM σ) (sensor : Option σ) :
    (updateSensor update sensor).Always fun _ sensor' => sensor'.isSome = sensor.isSome := by
  have hupdate := updateSensor_always (R := fun _ _ _ => True)
    (fun d => BusM.Always.of_forall (update d) fun _ _ => trivial) sensor
  exact hupdate.mono fun _ _ h => h.isSome_eq

theorem poll_does (hhtu : ∀ d, s.htu21d = some d → (d.update now).Does P)
    (hccs : ∀ htu21d : Option Htu21d.Driver, htu21d.isSome = s.htu21d.isSome →
      ∀ d, (feedEnvironment { s with htu21d }).ccs811 = some d → (d.update now).Does P)
    (hbme : ∀ htu21d d, (feedEnvironment { s with htu21d }).bme68x = some d →
      (d.update now).Does P) : (s.poll now).Does P := by
  unfold poll
  refine (updateSensor_does hhtu).bind_always (updateSensor_isSome _ _) fun htu hsome => ?_
  refine (updateSensor_does (hccs htu hsome)).bind fun ccs => ?_
  exact (updateSensor_does (hbme htu)).bind fun bme => trivial

theorem baseline_does (hccs : ∀ d, s.ccs811 = some d → d.readBaseline.Does P) :
    s.baseline.Does P := by
  unfold baseline
  cases hd : s.ccs811 with
  | none => trivial
  | some d => exact (hccs d hd).bind fun _ => trivial

theorem restoreBaseline_does {record : BaselineRecord}
    (hccs : ∀ d, s.ccs811 = some d → (d.writeBaseline record.baseline).Does P) :
    (s.restoreBaseline record).Does P := by
  unfold restoreBaseline
  cases hd : s.ccs811 with
  | none => trivial
  | some d => exact (hccs d hd).bind fun _ => trivial

theorem step_does {call : Call} (hinit : ∀ now, call = .init now → (s.init now).Does P)
    (hpoll : ∀ now, call = .poll now → (s.poll now).Does P)
    (hread : call = .baseline → s.baseline.Does P)
    (hwrite : ∀ record, call = .restoreBaseline record → (s.restoreBaseline record).Does P) :
    (s.step call).Does P := by
  cases call with
  | init now => exact (hinit now rfl).bind fun _ => trivial
  | poll now => exact hpoll now rfl
  | baseline => exact (hread rfl).bind fun _ => trivial
  | restoreBaseline record => exact (hwrite record rfl).bind fun _ => trivial

end Does

end AirStation.Station
