import AirStation.Proofs.Htu21d.Clock
import AirStation.Proofs.Sensor.FailedCycle
import AirStation.Proofs.Station.HandOver
import AirStation.Simulated.Bus

/-!
The climate reaches the CCS811. The station tells readings of the HTU21D apart by their times, which
grow with every reading, so each one is handed over once; the CCS811 keeps the climate until the
device has acknowledged it. `Compensated` is what holds between two calls, and the trace of moves
that it allows is read off in `climate_told_once`.

Times may repeat: two polls can be made at the same instant. A reading is then still told apart,
because the HTU21D stores at most one reading for any instant. Of the bus nothing is assumed.
-/

namespace AirStation.Station

section Moves

variable {address : UInt8} {now : Micros} {actions : List (Action Event)}

/-- The BME68x writes to no register low enough to be the environment register. -/
theorem move?_of_proper {target : UInt8} {action : Action Event}
    (h : Bme68x.Proper target action) : move? address action = none := by
  cases action with
  | exchanged e =>
    obtain ⟨target, transfer, response⟩ := e
    cases transfer with
    | write bytes =>
      obtain ⟨register, value, hregister, rfl⟩ := h.2 bytes rfl
      cases response with
      | error fault => rfl
      | ok _ =>
        have hother : register ≠ Ccs811.Register.environment := by
          rintro rfl
          exact absurd hregister (by decide)
        simp [move?, hother]
    | read | writeRead => rfl
  | paused => rfl
  | reported event => cases event <;> simp_all [Bme68x.Proper, storedBy?, Event.sensor?]

theorem movesOf_of_proper {target : UInt8}
    (h : ∀ action ∈ actions, Bme68x.Proper target action) : movesOf address actions = [] :=
  List.filterMap_eq_nil_iff.mpr fun action haction => move?_of_proper (h action haction)

theorem movesOf_htu_init {d : Htu21d.Driver} {outcome : Except SensorError Unit × Htu21d.Driver}
    (h : d.Init now actions outcome) : movesOf address actions = [] := by
  cases h <;> simp [storedBy?, Htu21d.softReset, Ccs811.Register.environment]

/-- A reading is stored by the move of its own, or nothing changes. Its time is another than that of
the reading before. -/
theorem movesOf_htu_update (address : UInt8) {d d' : Htu21d.Driver} {times : List Micros}
    (hd : d.Clocked times) (h : d.Update now actions d') :
    (∃ reading, movesOf address actions = [.stored reading] ∧ d'.latest = some reading ∧
      d'.timer.lastSuccess = some now ∧ d.timer.lastSuccess ≠ some now) ∨
    movesOf address actions = [] ∧ d'.memory = d.memory := by
  cases h with
  | measured hphase hdue bytes hbytes temperature hpending =>
    left
    exact ⟨_, by simp [storedBy?], rfl, rfl, hd.lastSuccess_ne hphase hdue⟩
  | rested | started | startRefused | unread | spoilt | halfway | halfwayRefused | dropped =>
    right
    refine ⟨?_, rfl⟩
    simp [storedBy?, Htu21d.Stage.command, Ccs811.Register.environment]

theorem movesOf_ccs_init {d : Ccs811.Driver} {outcome : Except SensorError Unit × Ccs811.Driver}
    (h : d.Init now actions outcome) : movesOf address actions = [] := by
  cases h <;> simp [storedBy?, Ccs811.Register.startApplication, Ccs811.Register.measurementMode,
    Ccs811.Register.environment]

theorem movesOf_interruption (d : Ccs811.Driver) : movesOf address d.interruption = [] := by
  unfold Ccs811.Driver.interruption
  cases d.phase <;> simp [storedBy?]

theorem movesOf_readBaseline {d : Ccs811.Driver}
    {outcome : Except SensorError UInt16 × Ccs811.Driver} (h : d.ReadBaseline actions outcome) :
    movesOf address actions = [] := by
  cases h <;> simp [movesOf_interruption]

theorem movesOf_writeBaseline {d : Ccs811.Driver} {baseline : UInt16}
    {outcome : Except SensorError Unit × Ccs811.Driver}
    (h : d.WriteBaseline baseline actions outcome) : movesOf address actions = [] := by
  cases h <;> simp [storedBy?, movesOf_interruption, Ccs811.Register.baseline,
    Ccs811.Register.environment]

/-- A pending climate is told and used up, or it stays. -/
theorem movesOf_ccs_update {d d' : Ccs811.Driver} (h : d.Update now actions d') :
    (∃ climate, d.pendingEnvironment = some climate ∧ d'.pendingEnvironment = none ∧
      movesOf d.address actions = [.told climate.toList]) ∨
    d'.pendingEnvironment = d.pendingEnvironment ∧ movesOf d.address actions = [] := by
  cases h with
  | told hphase hdue climate hpending =>
    left
    refine ⟨climate, hpending, rfl, ?_⟩
    simp [Ccs811.Register.environment, Ccs811.Register.result]
  | toldSelectRefused hphase hdue climate hpending fault =>
    left
    refine ⟨climate, hpending, rfl, ?_⟩
    simp [storedBy?, Ccs811.Register.environment]
  | rested | selected | selectRefused | untold | unread | erroneous | nothingNew | measured =>
    right
    simp_all [storedBy?, Ccs811.Register.environment, Ccs811.Register.result]

theorem movesOf_initSensor {σ : Type}
    {R : σ → List (Action Event) → Except SensorError Unit × σ → Prop}
    (hR : ∀ d actions outcome, R d actions outcome → movesOf address actions = [])
    {sensor : Option σ} {outcome : Option SensorError × Option σ}
    (h : InitSensor R sensor actions outcome) : movesOf address actions = [] := by
  cases h with
  | absent => rfl
  | ready h => exact hR _ _ _ h
  | failed error h => simp [hR _ _ _ h, storedBy?]

theorem movesOf_init {s s' : Station} (h : s.Init now actions s') :
    movesOf address actions = [] := by
  cases h with
  | mk hhtu hccs hbme hclosing =>
    simp only [movesOf_append]
    rw [movesOf_initSensor (fun _ _ _ => movesOf_htu_init) hhtu,
      movesOf_initSensor (fun _ _ _ => movesOf_ccs_init) hccs,
      movesOf_initSensor (fun _ _ _ h => movesOf_of_proper h.2) hbme]
    rcases hclosing with rfl | rfl <;> simp [storedBy?]

theorem movesOf_bme_update {sensor sensor' : Option Bme68x.Driver}
    (h : UpdateSensor (fun d actions d' => d.Update now actions d' ∧
      ∀ action ∈ actions, Bme68x.Proper d.address action) sensor actions sensor') :
    movesOf address actions = [] := by
  cases h with
  | absent => rfl
  | present h => exact movesOf_of_proper h.2

end Moves

theorem storedIn_htu_update (address : UInt8) {d d' : Htu21d.Driver} {times : List Micros}
    (hd : d.Clocked times) (h : d.Update now actions d') :
    storedIn (movesOf address actions) =
      (if d'.timer.lastSuccess = d.timer.lastSuccess then none else d'.latest).toList := by
  rcases movesOf_htu_update address hd h with
    ⟨reading, hmoves, hlatest, hsuccess, hearlier⟩ | ⟨hmoves, hmemory⟩
  · have hnew : d'.timer.lastSuccess ≠ d.timer.lastSuccess := hsuccess ▸ hearlier.symm
    rw [hmoves, hlatest, if_neg hnew]
    rfl
  · have hsame : d'.timer.lastSuccess = d.timer.lastSuccess :=
      congrArg Memory.lastSuccess hmemory
    rw [hmoves, if_pos hsame]
    rfl

theorem storedIn_ccs_update {d d' : Ccs811.Driver} (h : d.Update now actions d') :
    storedIn (movesOf d.address actions) = [] := by
  rcases movesOf_ccs_update h with ⟨climate, -, -, hmoves⟩ | ⟨-, hmoves⟩
  · rw [hmoves]
    rfl
  · rw [hmoves]
    rfl

theorem feedEnvironment_known {s : Station} {htu : Htu21d.Driver} (hhtu : s.htu21d = some htu)
    (hknown : s.compensatedFrom = htu.timer.lastSuccess) : feedEnvironment s = s := by
  unfold feedEnvironment
  split
  · rename_i htu' ccs _ hhtu' _
    obtain rfl : htu = htu' := Option.some.inj (hhtu.symm.trans hhtu')
    split
    · rename_i reading measured _ hsuccess
      exact if_pos (hknown.trans hsuccess)
    · rfl
  · rfl

theorem feedEnvironment_fresh {s : Station} {htu : Htu21d.Driver} {ccs : Ccs811.Driver}
    {reading : Htu21d.Reading} {measured : Micros}
    (hcompensation : s.environmentCompensation = true) (hhtu : s.htu21d = some htu)
    (hccs : s.ccs811 = some ccs) (hlatest : htu.latest = some reading)
    (hsuccess : htu.timer.lastSuccess = some measured)
    (hfresh : s.compensatedFrom ≠ some measured) :
    feedEnvironment s =
      { s with ccs811 := some (ccs.setEnvironment reading.temperature reading.humidity)
               compensatedFrom := some measured } := by
  simp [feedEnvironment, hcompensation, hhtu, hccs, hlatest, hsuccess, hfresh]

def times (past : List (Episode Event Station Call)) : List Micros :=
  (past.map (·.call)).filterMap Call.time?

def moves (address : UInt8) (past : List (Episode Event Station Call)) : List Move :=
  past.flatMap fun e => movesOf address e.actions

/-- When the HTU21D was last successful, as the station sees it; none before the first reading. -/
def measuredAt? (s : Station) : Option Micros :=
  s.htu21d.bind (·.timer.lastSuccess)

/-- The reading that a call stored, judged by the state it met and the state it left. -/
def stored? (e : Episode Event Station Call) : Option Htu21d.Reading :=
  if e.after.measuredAt? = e.before.measuredAt? then none else e.after.htu21d.bind (·.latest)

/-- Between two calls the reading handed over last is the latest one, and the trace of moves fits
what the two drivers hold and have stored. -/
structure Compensated (address : UInt8) (past : List (Episode Event Station Call))
    (htu : Htu21d.Driver) (ccs : Ccs811.Driver) (s : Station) : Prop where
  htu21d : s.htu21d = some htu
  ccs811 : s.ccs811 = some ccs
  compensation : s.environmentCompensation = true
  addressed : ccs.address = address
  handedOver : s.compensatedFrom = htu.timer.lastSuccess
  clocked : htu.Clocked (times past)
  handOver : HandOver (moves address past) htu.latest ccs.pendingEnvironment
  recorded : storedIn (moves address past) = past.filterMap stored?

variable {address : UInt8} {past : List (Episode Event Station Call)} {s s' : Station}
  {htu : Htu21d.Driver} {ccs : Ccs811.Driver} {actions : List (Action Event)} {now : Micros}

theorem moves_concat (address : UInt8) (past : List (Episode Event Station Call))
    (e : Episode Event Station Call) :
    moves address (past ++ [e]) = moves address past ++ movesOf address e.actions := by
  simp [moves]

theorem times_concat (past : List (Episode Event Station Call))
    (e : Episode Event Station Call) :
    times (past ++ [e]) = times past ++ e.call.time?.toList := by
  cases htime : e.call.time? <;> simp [times, htime]

theorem filterMap_stored_concat (past : List (Episode Event Station Call))
    (e : Episode Event Station Call) :
    (past ++ [e]).filterMap stored? = past.filterMap stored? ++ (stored? e).toList := by
  cases hstored : stored? e <;> simp [hstored]

theorem stored?_eq {e : Episode Event Station Call} {d d' : Htu21d.Driver}
    (hd : e.before.htu21d = some d) (hd' : e.after.htu21d = some d') :
    stored? e = if d'.timer.lastSuccess = d.timer.lastSuccess then none else d'.latest := by
  simp [stored?, measuredAt?, hd, hd']

/-- A call without a move that leaves the memory and the pending climate alone. -/
theorem Compensated.quiet {c : Call} {htu' : Htu21d.Driver} {ccs' : Ccs811.Driver}
    (h : Compensated address past htu ccs s) (hquiet : movesOf address actions = [])
    (hhtu : s'.htu21d = some htu') (hclocked : htu'.Clocked (times past))
    (hmemory : htu'.memory = htu.memory) (hccs : s'.ccs811 = some ccs')
    (hpending : ccs'.address = ccs.address ∧ ccs'.pendingEnvironment = ccs.pendingEnvironment)
    (hcompensation : s'.environmentCompensation = s.environmentCompensation)
    (hhanded : s'.compensatedFrom = s.compensatedFrom) :
    Compensated address (past ++ [⟨s, c, actions, s'⟩]) htu' ccs' s' where
  htu21d := hhtu
  ccs811 := hccs
  compensation := hcompensation.trans h.compensation
  addressed := hpending.1.trans h.addressed
  handedOver := by
    have hsuccess : htu'.timer.lastSuccess = htu.timer.lastSuccess :=
      congrArg Memory.lastSuccess hmemory
    rw [hhanded, h.handedOver, hsuccess]
  clocked := by
    rw [times_concat]
    exact hclocked.append _
  handOver := by
    have hlatest : htu'.latest = htu.latest := congrArg Memory.latest hmemory
    rw [moves_concat, hquiet, List.append_nil, hlatest, hpending.2]
    exact h.handOver
  recorded := by
    have hsuccess : htu'.timer.lastSuccess = htu.timer.lastSuccess :=
      congrArg Memory.lastSuccess hmemory
    have hnothing : stored? ⟨s, c, actions, s'⟩ = none :=
      (stored?_eq h.htu21d hhtu).trans (if_pos hsuccess)
    rw [moves_concat, hquiet, List.append_nil, h.recorded, filterMap_stored_concat, hnothing]
    exact (List.append_nil _).symm

theorem Compensated.init (h : Compensated address past htu ccs s)
    (hinit : s.Init now actions s') :
    ∃ htu' ccs',
      Compensated address (past ++ [⟨s, .init now, actions, s'⟩]) htu' ccs' s' := by
  have hquiet : movesOf address actions = [] := movesOf_init hinit
  cases hinit with
  | mk hhtu hccs hbme hclosing =>
    rw [h.htu21d] at hhtu
    rw [h.ccs811] at hccs
    obtain ⟨_, result, htu', hhtuInit, hhtu'⟩ := hhtu.of_some
    obtain ⟨_, _, ccs', hccsInit, hccs'⟩ := hccs.of_some
    have hmemory : htu'.memory = htu.memory :=
      Memory.Change.eq_of_none (Htu21d.Driver.Step.change (c := .init now) ⟨result, hhtuInit⟩)
    exact ⟨htu', ccs', h.quiet hquiet hhtu' (h.clocked.init hhtuInit) hmemory hccs'
      hccsInit.pendingEnvironment_eq rfl rfl⟩

theorem Compensated.baseline (h : Compensated address past htu ccs s)
    (hbaseline : s.Baseline actions s') :
    ∃ ccs', Compensated address (past ++ [⟨s, .baseline, actions, s'⟩]) htu ccs' s' := by
  cases hbaseline with
  | absent hccs => simp [h.ccs811] at hccs
  | present hccs hread =>
    obtain rfl := Option.some.inj (h.ccs811.symm.trans hccs)
    exact ⟨_, h.quiet (movesOf_readBaseline hread) h.htu21d h.clocked rfl rfl
      hread.pendingEnvironment_eq rfl rfl⟩

theorem Compensated.restoreBaseline {record : BaselineRecord}
    (h : Compensated address past htu ccs s) (hrestore : s.RestoreBaseline record actions s') :
    ∃ ccs',
      Compensated address (past ++ [⟨s, .restoreBaseline record, actions, s'⟩]) htu ccs' s' := by
  cases hrestore with
  | absent hccs => simp [h.ccs811] at hccs
  | present hccs hwritten =>
    obtain rfl := Option.some.inj (h.ccs811.symm.trans hccs)
    exact ⟨_, h.quiet (movesOf_writeBaseline hwritten) h.htu21d h.clocked rfl rfl
      hwritten.pendingEnvironment_eq rfl rfl⟩

/-- Between the updates of the two sensors the latest reading has been handed over: a new one is
told apart from the last by its time. -/
theorem Compensated.fed {htu' : Htu21d.Driver} (h : Compensated address past htu ccs s)
    (hupdate : htu.Update now actions htu') :
    ∃ ccs', ccs'.address = address ∧
      feedEnvironment { s with htu21d := some htu' } =
        { s with htu21d := some htu'
                 ccs811 := some ccs'
                 compensatedFrom := htu'.timer.lastSuccess } ∧
      HandOver (moves address past ++ movesOf address actions) htu'.latest
        ccs'.pendingEnvironment := by
  rcases movesOf_htu_update address h.clocked hupdate with
    ⟨reading, hmoves, hlatest, hsuccess, hearlier⟩ | ⟨hmoves, hmemory⟩
  · refine ⟨ccs.setEnvironment reading.temperature reading.humidity, h.addressed, ?_, ?_⟩
    · have hfresh : s.compensatedFrom ≠ some now := h.handedOver ▸ hearlier
      rw [hsuccess]
      exact feedEnvironment_fresh (s := { s with htu21d := some htu' }) h.compensation rfl
        h.ccs811 hlatest hsuccess hfresh
    · rw [hmoves, hlatest]
      exact h.handOver.stored reading
  · have hlatest : htu'.latest = htu.latest := congrArg Memory.latest hmemory
    have hsuccess : htu'.timer.lastSuccess = htu.timer.lastSuccess :=
      congrArg Memory.lastSuccess hmemory
    refine ⟨ccs, h.addressed, ?_, ?_⟩
    · rw [hsuccess, ← h.handedOver, ← h.ccs811]
      exact feedEnvironment_known (s := { s with htu21d := some htu' }) rfl
        (h.handedOver.trans hsuccess.symm)
    · rw [hmoves, List.append_nil, hlatest]
      exact h.handOver

theorem Compensated.poll (h : Compensated address past htu ccs s)
    (hnow : ∀ t ∈ times past, t ≤ now) (hpoll : s.Poll now actions s') :
    ∃ htu' ccs',
      Compensated address (past ++ [⟨s, .poll now, actions, s'⟩]) htu' ccs' s' := by
  cases hpoll with
  | mk hhtu hfed hccs hbme =>
    rw [h.htu21d] at hhtu
    obtain ⟨htu', hupdate, rfl⟩ := hhtu.of_some
    obtain ⟨fed, haddress, hfed', hhanded⟩ := h.fed hupdate
    subst hfed
    rw [hfed'] at hccs ⊢
    obtain ⟨ccs', hccsUpdate, rfl⟩ := hccs.of_some
    refine ⟨htu', ccs', rfl, rfl, h.compensation, hccsUpdate.address_eq.trans haddress, rfl,
      ?_, ?_, ?_⟩
    · rw [times_concat]
      exact h.clocked.update hnow hupdate
    · rw [moves_concat, movesOf_append, movesOf_append, movesOf_bme_update hbme]
      have htold := movesOf_ccs_update hccsUpdate
      rw [haddress] at htold
      rcases htold with ⟨climate, hpending, hnone, hmoves⟩ | ⟨hpending, hmoves⟩
      · rw [hpending] at hhanded
        rw [hnone, hmoves]
        simpa using hhanded.told
      · rw [hpending, hmoves]
        simpa using hhanded
    · have hnothing := storedIn_ccs_update hccsUpdate
      rw [haddress] at hnothing
      rw [moves_concat, movesOf_append, movesOf_append, movesOf_bme_update hbme, List.append_nil,
        storedIn_append, storedIn_append, hnothing, List.append_nil, h.recorded,
        filterMap_stored_concat, stored?_eq h.htu21d rfl]
      exact congrArg _ (storedIn_htu_update address h.clocked hupdate)

/-- One call in the order of time keeps what holds between two calls. -/
theorem Compensated.step {c : Call} (h : Compensated address past htu ccs s)
    (hclock : (times (past ++ [⟨s, c, actions, s'⟩])).Pairwise (· ≤ ·))
    (hstep : s.Step c actions s') :
    ∃ htu' ccs', Compensated address (past ++ [⟨s, c, actions, s'⟩]) htu' ccs' s' := by
  cases c with
  | init now => exact h.init hstep
  | poll now =>
    rw [times_concat, List.pairwise_append] at hclock
    exact h.poll (fun t ht => hclock.2.2 t ht now (List.mem_singleton.mpr rfl)) hstep
  | baseline => exact ⟨htu, h.baseline hstep⟩
  | restoreBaseline record => exact ⟨htu, h.restoreBaseline hstep⟩

variable {β : Type} [Bus β]

theorem compensated_history (config : Config) (bus : β) (calls : List Call)
    (hhtu : config.htu21d.enabled = true) (hccs : config.ccs811.enabled = true)
    (hcompensation : config.ccs811.environmentCompensation = true)
    (hclock : (calls.filterMap Call.time?).Pairwise (· ≤ ·)) :
    ∃ htu ccs, Compensated config.ccs811.address (history config bus calls).past htu ccs
      (history config bus calls).state := by
  refine History.invariant
    (fun past s => (times past).Pairwise (· ≤ ·) →
      ∃ htu ccs, Compensated config.ccs811.address past htu ccs s)
    step_always ?_ ?_ calls ?_
  · intro past s c actions s' ih hstep hlater
    have hpast : (times past).Pairwise (· ≤ ·) := by
      rw [times_concat, List.pairwise_append] at hlater
      exact hlater.1
    obtain ⟨htu, ccs, h⟩ := ih hpast
    exact h.step hlater hstep
  · intro _
    refine ⟨.ofInterval config.htu21d.interval,
      .create config.ccs811.address config.ccs811.interval config.ccs811.mode, ?_⟩
    exact {
      htu21d := if_pos hhtu
      ccs811 := if_pos hccs
      compensation := hcompensation
      addressed := rfl
      handedOver := rfl
      clocked := ⟨nofun, nofun⟩
      handOver := .nothing
      recorded := rfl }
  · rw [times, History.calls_play]
    exact hclock

/-- The climate loses no reading on its way to the CCS811 and takes none twice. While time does not
run backwards, the latest reading is pending or was the last one told, whatever the bus answers.
The readings in the trace are those that calls have stored, in the same order.
Each acknowledged climate is that of the reading stored just before, and a reading that is not told
next is still pending or was replaced by a newer one. -/
theorem climate_told_once (config : Config) (bus : β) (calls : List Call)
    (hhtu : config.htu21d.enabled = true) (hccs : config.ccs811.enabled = true)
    (hcompensation : config.ccs811.environmentCompensation = true)
    (hclock : (calls.filterMap Call.time?).Pairwise (· ≤ ·)) :
    let h := history config bus calls
    let trace := moves config.ccs811.address h.past
    ∃ htu ccs, h.state.htu21d = some htu ∧ h.state.ccs811 = some ccs ∧
      storedIn trace = h.past.filterMap stored? ∧ htu.latest = (storedIn trace).getLast? ∧
      (∀ reading, htu.latest = some reading →
        ccs.pendingEnvironment = some (climateOf reading) ∨
          ccs.pendingEnvironment = none ∧
            (toldIn trace).getLast? = some (climateOf reading).toList) ∧
      (toldIn trace).length ≤ (storedIn trace).length ∧
      (∀ before payload after, trace = before ++ .told payload :: after →
        ∃ earlier reading, before = earlier ++ [.stored reading] ∧
          payload = (climateOf reading).toList) ∧
      ∀ before reading after, trace = before ++ .stored reading :: after →
        after = [] ∧ ccs.pendingEnvironment = some (climateOf reading) ∨
          (∃ later, after = .told (climateOf reading).toList :: later) ∨
            ∃ newer later, after = .stored newer :: later := by
  intro h trace
  obtain ⟨htu, ccs, hcompensated⟩ :=
    compensated_history config bus calls hhtu hccs hcompensation hclock
  have hhandOver : HandOver trace htu.latest ccs.pendingEnvironment := hcompensated.handOver
  refine ⟨htu, ccs, hcompensated.htu21d, hcompensated.ccs811, hcompensated.recorded,
    hhandOver.latest_eq, ?_, ?_, ?_, ?_⟩
  · intro reading hlatest
    exact hhandOver.pending_or_told hlatest
  · exact Nat.le_trans (Nat.le_add_right _ _) hhandOver.length_told_le
  · intro before payload after htrace
    exact hhandOver.told_after_stored htrace
  · intro before reading after htrace
    rcases hhandOver.told_or_replaced htrace with ⟨hafter, -, hpending⟩ | htold | hreplaced
    · exact .inl ⟨hafter, hpending⟩
    · exact .inr (.inl htold)
    · exact .inr (.inr hreplaced)

/-- A bus with an HTU21D and a CCS811 on it, and no BME68x. -/
def climateBus : SimulatedBus :=
  { SimulatedBus.empty with
    htu21d := some ⟨0x6000, 0x8002, none, false, 0⟩
    ccs811 := some .standard }

theorem climate_told_once_undisturbed :
    let h := history .standard climateBus
      [.init 0, .poll 1000000, .poll 1050000, .poll 1066000, .poll 2000000]
    let trace := moves 0x5A h.past
    (toldIn trace).length = 1 ∧ ∃ htu, h.state.htu21d = some htu ∧
      htu.latest = (storedIn trace).getLast? := by
  intro h trace
  obtain ⟨htu, ccs, hhtu, hccs, -, hlatest, -⟩ := climate_told_once .standard climateBus
    [.init 0, .poll 1000000, .poll 1050000, .poll 1066000, .poll 2000000] rfl rfl rfl (by decide)
  exact ⟨by decide +kernel, htu, hhtu, hlatest⟩

end AirStation.Station
