import AirStation.Proofs.Bus.Timeline
import AirStation.Proofs.Station.Isolation
import AirStation.Simulated.Bus

/-!
What a published air quality rests on. The latest reading of the BME68x is that of the newest
acceptable field in the last burst that had one; the index is there exactly when that field carries
both gas bits, and is assessed from its reading (`air_quality_rests_on_marked_field`).

The bits are all that counts: with the heater off a field that carries them still makes an index,
out of the placeholder resistance (`index_without_heater`). Nothing is assumed about the bus or
about the order of calls, and bursts are recognised by their register, so the traffic of the other
sensors has to be shown to contain none.
-/

namespace AirStation

namespace Bme68x

/-- An acknowledged read of the field registers, at whatever address and of whatever length. -/
def Bursts : Action Event → Prop
  | .exchanged x => x.acknowledged = true ∧ ∃ count, x.transfer = .writeRead [Register.fields] count
  | _ => False

theorem bursts_fetched (address : UInt8) {count : Nat} (bytes : Vector UInt8 count) :
    Bursts (.exchanged (.fetched address Register.fields bytes)) :=
  ⟨rfl, count, rfl⟩

@[simp] theorem not_bursts_reported (event : Event) : ¬ Bursts (.reported event) :=
  id

@[simp] theorem not_bursts_paused (milliseconds : Nat) : ¬ Bursts (.paused milliseconds) :=
  id

@[simp] theorem not_bursts_failed (address : UInt8) (transfer : Transfer) (fault : Fault) :
    ¬ Bursts (.exchanged (.failed address transfer fault)) := by
  rintro ⟨hacknowledged, -⟩
  nomatch hacknowledged

@[simp] theorem not_bursts_wrote (address : UInt8) (bytes : List UInt8) :
    ¬ Bursts (.exchanged (.wrote address bytes)) := by
  rintro ⟨-, count, htransfer⟩
  nomatch htransfer

@[simp] theorem not_bursts_received (address : UInt8) {count : Nat} (bytes : Vector UInt8 count) :
    ¬ Bursts (.exchanged (.received address bytes)) := by
  rintro ⟨-, count, htransfer⟩
  nomatch htransfer

theorem not_bursts_fetched {register : UInt8} (hregister : register ≠ Register.fields)
    (address : UInt8) {count : Nat} (bytes : Vector UInt8 count) :
    ¬ Bursts (.exchanged (.fetched address register bytes)) := by
  rintro ⟨-, _, htransfer⟩
  exact hregister (List.singleton_inj.mp (Transfer.writeRead.inj htransfer).1)

theorem SetsUp.not_bursts {address : UInt8} {action : Action Event} (h : SetsUp address action) :
    ¬ Bursts action := by
  cases action with
  | exchanged x =>
    obtain ⟨-, hpreparing⟩ := h
    rintro ⟨-, count, htransfer⟩
    rw [htransfer] at hpreparing
    exact hpreparing rfl
  | paused | reported => exact id

namespace Driver

def newestField? (d : Driver) (fields : List RawField) : Option RawField :=
  (fields.filter (·.has d.settings.requiredMask)).getLast?

/-- The actions hold a burst, and the reading is that of its newest acceptable field, compensated
for the part as the driver knows it. -/
def Takes (d : Driver) (actions : List (Action Event)) (field : RawField) (reading : Reading) :
    Prop :=
  ∃ bytes : d.Burst, .exchanged (.fetched d.address Register.fields bytes) ∈ actions ∧
    d.newestField? (d.fieldsOf bytes) = some field ∧
    reading = compensate d.settings d.variant d.calibration field

def Accepts (d : Driver) (actions : List (Action Event)) : Prop :=
  ∃ field reading, d.Takes actions field reading

theorem not_accepts {d : Driver} {actions : List (Action Event)}
    (h : ∀ action ∈ actions, ¬ Bursts action) : ¬ d.Accepts actions := by
  rintro ⟨field, reading, bytes, hbytes, -⟩
  exact h _ hbytes (bursts_fetched _ bytes)

theorem takes_append {d : Driver} {before actions : List (Action Event)}
    (hbefore : ∀ action ∈ before, ¬ Bursts action) (field : RawField) (reading : Reading) :
    d.Takes (before ++ actions) field reading ↔ d.Takes actions field reading := by
  constructor
  · rintro ⟨bytes, hbytes, htakes⟩
    rcases List.mem_append.mp hbytes with hmem | hmem
    · exact absurd (bursts_fetched _ bytes) (hbefore _ hmem)
    · exact ⟨bytes, hmem, htakes⟩
  · rintro ⟨bytes, hbytes, htakes⟩
    exact ⟨bytes, List.mem_append_right _ hbytes, htakes⟩

theorem takes_burst {d : Driver} (bytes : d.Burst) {rest : List (Action Event)}
    (hrest : ∀ action ∈ rest, ¬ Bursts action) (field : RawField) (reading : Reading) :
    d.Takes (.exchanged (.fetched d.address Register.fields bytes) :: rest) field reading ↔
      d.newestField? (d.fieldsOf bytes) = some field ∧
        reading = compensate d.settings d.variant d.calibration field := by
  constructor
  · rintro ⟨other, hother, htakes⟩
    rcases List.mem_cons.mp hother with hsame | hmem
    · obtain rfl := (Exchange.fetched_inj _ _ _ _).mp (Action.exchanged.inj hsame)
      exact htakes
    · exact absurd (bursts_fetched _ other) (hrest _ hmem)
  · intro htakes
    exact ⟨bytes, List.mem_cons_self, htakes⟩

/-- The latest reading is that of the field just accepted, and without one it stays. -/
theorem Update.latest {d d' : Driver} {now : Micros} {actions : List (Action Event)}
    (h : d.Update now actions d') :
    (d.Accepts actions ∧
      ∀ reading, d'.latest = some reading ↔ ∃ field, d.Takes actions field reading) ∨
    ¬ d.Accepts actions ∧ d'.latest = d.latest := by
  have hreports (events : List Event) (last : Event) :
      ∀ action ∈ events.map Action.reported ++ [.reported last], ¬ Bursts action := by
    intro action haction
    simp only [List.mem_append, List.mem_map, List.mem_singleton] at haction
    rcases haction with ⟨event, -, rfl⟩ | rfl <;> exact id
  cases h with
  | measured stage hphase hdue bytes reading hfields =>
    left
    obtain ⟨field, hfield, rfl⟩ := Option.map_eq_some_iff.mp hfields
    have htakes := takes_burst bytes (hreports (d.skipped (d.fieldsOf bytes))
      (.bme68xMeasured (compensate d.settings d.variant d.calibration field)))
    refine ⟨⟨field, _, (htakes _ _).mpr ⟨hfield, rfl⟩⟩, fun reading => ?_⟩
    constructor
    · rintro ⟨rfl⟩
      exact ⟨field, (htakes _ _).mpr ⟨hfield, rfl⟩⟩
    · rintro ⟨other, hother⟩
      obtain ⟨hnewest, rfl⟩ := (htakes _ _).mp hother
      rw [Option.some.inj (hnewest.symm.trans hfield)]
  | nothingNew stage hphase hdue bytes hfields =>
    refine .inr ⟨?_, rfl⟩
    rintro ⟨field, reading, htakes⟩
    obtain ⟨hnewest, -⟩ := (takes_burst bytes (hreports _ _) _ _).mp htakes
    rw [newest?, Option.map_eq_none_iff] at hfields
    nomatch hfields.symm.trans hnewest
  | rested | started | startRefused | unread => exact .inr ⟨not_accepts (by simp), rfl⟩

theorem Update.settings_eq {d d' : Driver} {now : Micros} {actions : List (Action Event)}
    (h : d.Update now actions d') : d'.settings = d.settings := by
  cases h <;> rfl

end Driver

end Bme68x

namespace Station

open Bme68x (Bursts Reading RawField)

variable {β : Type} [Bus β] {c : Config}

/-- In this call the BME68x accepted the field and made the reading of it, with the settings of the
configuration. -/
def Takes (c : Config) (e : Episode Event Station Call) (field : RawField) (reading : Reading) :
    Prop :=
  ∃ d, e.before.bme68x = some d ∧ d.settings = c.bme68x.settings ∧ d.Takes e.actions field reading

def Accepts (c : Config) (e : Episode Event Station Call) : Prop :=
  ∃ field reading, Takes c e field reading

theorem not_bursts_htu_init {d : Htu21d.Driver} {now : Micros} {actions : List (Action Event)}
    {outcome : Except SensorError Unit × Htu21d.Driver} (h : d.Init now actions outcome) :
    ∀ action ∈ actions, ¬ Bursts action := by
  cases h <;> simp

theorem not_bursts_htu_update {d d' : Htu21d.Driver} {now : Micros}
    {actions : List (Action Event)} (h : d.Update now actions d') :
    ∀ action ∈ actions, ¬ Bursts action := by
  cases h <;> simp

theorem not_bursts_ccs_init {d : Ccs811.Driver} {now : Micros} {actions : List (Action Event)}
    {outcome : Except SensorError Unit × Ccs811.Driver} (h : d.Init now actions outcome) :
    ∀ action ∈ actions, ¬ Bursts action := by
  have hid : Ccs811.Register.hardwareId ≠ Bme68x.Register.fields := by decide
  cases h <;> simp [Bme68x.not_bursts_fetched hid]

theorem not_bursts_ccs_update {d d' : Ccs811.Driver} {now : Micros}
    {actions : List (Action Event)} (h : d.Update now actions d') :
    ∀ action ∈ actions, ¬ Bursts action := by
  cases h <;> simp

theorem not_bursts_interruption (d : Ccs811.Driver) :
    ∀ action ∈ d.interruption, ¬ Bursts action := by
  unfold Ccs811.Driver.interruption
  cases d.phase <;> simp

theorem not_bursts_readBaseline {d : Ccs811.Driver} {actions : List (Action Event)}
    {outcome : Except SensorError UInt16 × Ccs811.Driver} (h : d.ReadBaseline actions outcome) :
    ∀ action ∈ actions, ¬ Bursts action := by
  have hbaseline : Ccs811.Register.baseline ≠ Bme68x.Register.fields := by decide
  cases h with
  | idle => simp
  | refused | read =>
    refine List.forall_mem_append.mpr ⟨not_bursts_interruption d, ?_⟩
    simp [Bme68x.not_bursts_fetched hbaseline]

theorem not_bursts_writeBaseline {d : Ccs811.Driver} {baseline : UInt16}
    {actions : List (Action Event)} {outcome : Except SensorError Unit × Ccs811.Driver}
    (h : d.WriteBaseline baseline actions outcome) : ∀ action ∈ actions, ¬ Bursts action := by
  cases h with
  | idle => simp
  | refused | written =>
    refine List.forall_mem_append.mpr ⟨not_bursts_interruption d, ?_⟩
    simp

theorem init_does_not_burst (s : Station) (now : Micros) : (s.init now).Does (¬ Bursts ·) := by
  apply init_does (fun _ => id)
  · exact fun d _ => .of_always (d.init_always now) fun _ _ => not_bursts_htu_init
  · exact fun d _ => .of_always (d.init_always now) fun _ _ => not_bursts_ccs_init
  · exact fun d _ => (d.init_setsUp now).mono fun _ h => h.not_bursts

theorem step_does_not_burst (s : Station) {call : Call} (hcall : ∀ now, call ≠ .poll now) :
    (s.step call).Does (¬ Bursts ·) := by
  apply step_does
  · exact fun now _ => s.init_does_not_burst now
  · exact fun now hpoll => absurd hpoll (hcall now)
  · exact fun _ => baseline_does fun d _ =>
      .of_always d.readBaseline_always fun _ _ => not_bursts_readBaseline
  · exact fun record _ => restoreBaseline_does fun d _ =>
      .of_always (d.writeBaseline_always record.baseline) fun _ _ => not_bursts_writeBaseline

/-- What the index depends on, tied to the calls so far. The latest reading was taken in the last
call that accepted a field. -/
structure Founded (c : Config) (past : List (Episode Event Station Call)) (s : Station) :
    Prop where
  settings : ∀ d, s.bme68x = some d → d.settings = c.bme68x.settings
  tuning : s.tuning = c.tuning
  latest : ∀ reading, s.snapshot.bme68x = some reading ↔
    ∃ e field, LastOf (Accepts c) past e ∧ Takes c e field reading

variable {past : List (Episode Event Station Call)} {s s' : Station} {call : Call} {now : Micros}
  {actions : List (Action Event)}

theorem founded_ofConfig (c : Config) : Founded c [] (ofConfig c) where
  settings d hd := by
    by_cases henabled : c.bme68x.enabled
    · simp [ofConfig, henabled] at hd
      simp [← hd, Bme68x.Driver.create]
    · simp [ofConfig, henabled] at hd
  tuning := rfl
  latest reading := by
    have hnone : (ofConfig c).snapshot.bme68x = none := by
      by_cases henabled : c.bme68x.enabled <;>
        simp [ofConfig, snapshot, henabled, Bme68x.Driver.create]
    simp [hnone, not_lastOf_nil]

/-- A call that accepts no field and leaves the BME68x its settings and its reading. -/
theorem Founded.kept (h : Founded c past s) (hquiet : ¬ Accepts c ⟨s, call, actions, s'⟩)
    (htuning : s'.tuning = s.tuning)
    (hbme : s'.bme68x.map (fun d => (d.settings, d.latest)) =
      s.bme68x.map (fun d => (d.settings, d.latest))) :
    Founded c (past ++ [⟨s, call, actions, s'⟩]) s' where
  settings d' hd' := by
    rw [hd'] at hbme
    obtain ⟨d, hd, hsame⟩ := Option.map_eq_some_iff.mp hbme.symm
    exact (congrArg Prod.fst hsame).symm.trans (h.settings d hd)
  tuning := htuning.trans h.tuning
  latest reading := by
    have hsame : s'.snapshot.bme68x = s.snapshot.bme68x := by
      have hlatest := congrArg (Option.bind · Prod.snd) hbme
      simpa [snapshot, Option.bind_map, Function.comp_def] using hlatest
    simp only [hsame, lastOf_concat_of_not hquiet]
    exact h.latest reading

theorem not_accepts_of_quiet (hquiet : ∀ action ∈ actions, ¬ Bursts action) :
    ¬ Accepts c ⟨s, call, actions, s'⟩ := by
  rintro ⟨field, reading, d, -, -, htakes⟩
  exact Bme68x.Driver.not_accepts hquiet ⟨field, reading, htakes⟩

theorem Founded.init (h : Founded c past s) (hinit : s.Init now actions s')
    (hquiet : ∀ action ∈ actions, ¬ Bursts action) :
    Founded c (past ++ [⟨s, .init now, actions, s'⟩]) s' := by
  apply h.kept (not_accepts_of_quiet hquiet)
  · cases hinit
    rfl
  · obtain ⟨-, -, hbme, -⟩ := hinit
    generalize s.bme68x = sensor at hbme
    cases hbme with
    | absent => rfl
    | ready hsensor | failed _ hsensor =>
      obtain ⟨hinit, -⟩ := hsensor
      cases hinit
      rfl

theorem UpdateSensor.forall_mem {σ : Type} {R : σ → List (Action Event) → σ → Prop}
    {P : Action Event → Prop} {sensor sensor' : Option σ}
    (h : UpdateSensor R sensor actions sensor')
    (hR : ∀ d d', R d actions d' → ∀ action ∈ actions, P action) :
    ∀ action ∈ actions, P action := by
  cases h with
  | absent => simp
  | present h => exact hR _ _ h

theorem tuning_feedEnvironment (s : Station) : (feedEnvironment s).tuning = s.tuning := by
  unfold feedEnvironment
  repeat' split
  all_goals rfl

theorem takes_poll {d : Bme68x.Driver} (hd : s.bme68x = some d)
    (hsettings : d.settings = c.bme68x.settings) {first second third : List (Action Event)}
    (hfirst : ∀ action ∈ first, ¬ Bursts action) (hsecond : ∀ action ∈ second, ¬ Bursts action)
    (field : RawField) (reading : Reading) :
    Takes c ⟨s, call, first ++ (second ++ third), s'⟩ field reading ↔
      d.Takes third field reading := by
  constructor
  · rintro ⟨other, hother, -, htakes⟩
    obtain rfl := Option.some.inj (hd.symm.trans hother)
    rwa [Bme68x.Driver.takes_append hfirst, Bme68x.Driver.takes_append hsecond] at htakes
  · intro htakes
    refine ⟨d, hd, hsettings, ?_⟩
    rwa [Bme68x.Driver.takes_append hfirst, Bme68x.Driver.takes_append hsecond]

theorem Founded.poll (h : Founded c past s) (hpoll : s.Poll now actions s') :
    Founded c (past ++ [⟨s, .poll now, actions, s'⟩]) s' := by
  cases hpoll with
  | @mk first second third htu21d ccs811 bme68x fed hhtu hfed hccs hbme =>
    subst hfed
    rw [bme68x_feedEnvironment] at hbme
    have hfirst := hhtu.forall_mem fun _ _ => not_bursts_htu_update
    have hsecond := hccs.forall_mem fun _ _ => not_bursts_ccs_update
    rcases Option.eq_none_or_eq_some s.bme68x with hd | ⟨d, hd⟩
    · obtain ⟨rfl, rfl⟩ : third = [] ∧ bme68x = none := by
        rw [hd] at hbme
        cases hbme
        exact ⟨rfl, rfl⟩
      refine h.kept ?_ (tuning_feedEnvironment _) (congrArg (Option.map _) hd.symm)
      rintro ⟨_, _, d, hother, -⟩
      nomatch hd.symm.trans hother
    · rw [hd] at hbme
      obtain ⟨d', ⟨hupdate, -⟩, rfl⟩ := hbme.of_some
      have htakes (field : RawField) (reading : Reading) :
          Takes c ⟨s, .poll now, first ++ (second ++ third),
            { feedEnvironment { s with htu21d } with ccs811, bme68x := some d' }⟩ field reading ↔
              d.Takes third field reading :=
        takes_poll hd (h.settings d hd) hfirst hsecond field reading
      rcases hupdate.latest with ⟨⟨field, reading, haccepts⟩, hlatest⟩ | ⟨hrefuses, hlatest⟩
      · have haccepted : Accepts c ⟨s, .poll now, first ++ (second ++ third), _⟩ :=
          ⟨field, reading, (htakes field reading).mpr haccepts⟩
        refine ⟨?_, (tuning_feedEnvironment _).trans h.tuning, fun other => ?_⟩
        · rintro _ ⟨rfl⟩
          exact (hupdate.settings_eq).trans (h.settings d hd)
        · constructor
          · intro hother
            obtain ⟨taken, htaken⟩ := (hlatest other).mp hother
            exact ⟨_, taken, lastOf_concat haccepted past, (htakes taken other).mpr htaken⟩
          · rintro ⟨e, taken, he, htaken⟩
            obtain rfl := (lastOf_concat_of_kind haccepted past).mp he
            exact (hlatest other).mpr ⟨taken, (htakes taken other).mp htaken⟩
      · refine h.kept ?_ (tuning_feedEnvironment _) ?_
        · rintro ⟨field, reading, htaken⟩
          exact hrefuses ⟨field, reading, (htakes field reading).mp htaken⟩
        · rw [hd]
          simp [hlatest, hupdate.settings_eq]

theorem Founded.step (h : Founded c past s) (hstep : s.Step call actions s')
    (hquiet : (∀ now, call ≠ .poll now) → ∀ action ∈ actions, ¬ Bursts action) :
    Founded c (past ++ [⟨s, call, actions, s'⟩]) s' := by
  cases call with
  | init now => exact h.init hstep (hquiet nofun)
  | poll now => exact h.poll hstep
  | baseline | restoreBaseline =>
    cases hstep <;> exact h.kept (not_accepts_of_quiet (hquiet nofun)) rfl rfl

theorem founded_history (c : Config) (bus : β) (calls : List Call) :
    Founded c (history c bus calls).past (history c bus calls).state := by
  apply History.invariant (Founded c) (R := fun s call actions s' => s.Step call actions s' ∧
    ((∀ now, call ≠ .poll now) → ∀ action ∈ actions, ¬ Bursts action))
  · intro s call
    by_cases hcall : ∀ now, call ≠ .poll now
    · have hquiet := (BusM.does_iff_always _ _).mp (s.step_does_not_burst hcall)
      exact ((s.step_always call).and hquiet).mono fun _ _ h => ⟨h.1, fun _ => h.2⟩
    · exact (s.step_always call).mono fun _ _ h => ⟨h, fun hother => absurd hother hcall⟩
  · intro past s call actions s' h hstep
    exact h.step hstep.1 hstep.2
  · exact founded_ofConfig c

theorem airQuality_eq (s : Station) (q : AirQuality) :
    s.airQuality = some q ↔ ∃ reading, s.snapshot.bme68x = some reading ∧
      reading.gasValid = true ∧
      q = .assess s.tuning reading.gasResistance (Single.truncate reading.humidity) := by
  have hindex : s.airQuality = s.snapshot.bme68x.bind fun reading =>
      if reading.gasValid then
        some (.assess s.tuning reading.gasResistance (Single.truncate reading.humidity))
      else none := by
    unfold airQuality snapshot
    cases s.bme68x <;> rfl
  rw [hindex, Option.bind_eq_some_iff]
  constructor
  · rintro ⟨reading, hlatest, hq⟩
    obtain ⟨hvalid, hq⟩ := Option.ite_none_right_eq_some.mp hq
    exact ⟨reading, hlatest, hvalid, (Option.some.inj hq).symm⟩
  · rintro ⟨reading, hlatest, hvalid, rfl⟩
    exact ⟨reading, hlatest, if_pos hvalid⟩

theorem Takes.gasValid_eq {e : Episode Event Station Call} {field : RawField} {reading : Reading}
    (h : Takes c e field reading) :
    reading.gasValid = field.has (Bme68x.Status.gasValid ||| Bme68x.Status.heatStable) := by
  obtain ⟨d, -, -, bytes, -, -, rfl⟩ := h
  rfl

/-- Only an active heater has its gas measurement turned into ohms; without one the reading has the
placeholder zero. -/
theorem Takes.heated {e : Episode Event Station Call} {field : RawField} {reading : Reading}
    (h : Takes c e field reading) :
    c.bme68x.settings.heater.active = true ∨ reading.gasResistance = 0 := by
  obtain ⟨d, -, hsettings, bytes, -, -, rfl⟩ := h
  by_cases hactive : c.bme68x.settings.heater.active
  · exact .inl hactive
  · right
    rw [← hsettings] at hactive
    exact if_neg hactive

/-- After any calls on any bus there is an air quality exactly when the field that was accepted
last carries both gas bits, and it is assessed from the reading of that field. Its resistance was
measured with the heater active, or else it is the placeholder zero. -/
theorem air_quality_rests_on_marked_field (c : Config) (bus : β) (calls : List Call)
    (q : AirQuality) :
    let h := history c bus calls
    h.state.airQuality = some q ↔ ∃ e field reading,
      LastOf (Accepts c) h.past e ∧ Takes c e field reading ∧
      h.state.snapshot.bme68x = some reading ∧
      field.has (Bme68x.Status.gasValid ||| Bme68x.Status.heatStable) = true ∧
      q = .assess c.tuning reading.gasResistance (Single.truncate reading.humidity) ∧
      (c.bme68x.settings.heater.active = true ∨ reading.gasResistance = 0) := by
  intro h
  have hfounded : Founded c h.past h.state := founded_history c bus calls
  rw [airQuality_eq, hfounded.tuning]
  constructor
  · rintro ⟨reading, hlatest, hvalid, hq⟩
    obtain ⟨e, field, hlast, htakes⟩ := (hfounded.latest reading).mp hlatest
    rw [htakes.gasValid_eq] at hvalid
    exact ⟨e, field, reading, hlast, htakes, hlatest, hvalid, hq, htakes.heated⟩
  · rintro ⟨e, field, reading, -, htakes, hlatest, hmarked, hq, -⟩
    exact ⟨reading, hlatest, htakes.gasValid_eq.trans hmarked, hq⟩

/-- The standard configuration with nothing but a BME68x, and its heater off. -/
def unheated : Config :=
  { Config.standard with
    htu21d := { Config.standard.htu21d with enabled := false }
    ccs811 := { Config.standard.ccs811 with enabled := false }
    bme68x := { Config.standard.bme68x with
      settings := { Bme68x.Settings.standard with
        heater := { Bme68x.Heater.standard with enabled := false } } } }

/-- Without a heater there is no gas measurement, but a field with both bits makes an index out of
the placeholder. -/
theorem index_without_heater :
    let h := history unheated
      { SimulatedBus.empty with bme68x := some (Bme68x.Model.standard.stage [.valid]) }
      [.init 0, .poll 3000000, .poll 3200000]
    unheated.bme68x.settings.heater.active = false ∧
      h.state.snapshot.bme68x.map (·.gasResistance) = some 0 ∧
      h.state.airQuality.isSome = true := by
  decide +kernel

end Station

end AirStation
