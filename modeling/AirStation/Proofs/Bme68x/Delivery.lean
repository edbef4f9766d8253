import AirStation.Proofs.Bme68x.Learning
import AirStation.Proofs.Bme68x.Slots

/-!
Fields on their way from the device to the reader. What is staged is latched by the next trigger,
and the read that completes the cycle reports the last acceptable field of those that were latched.
The slots keep older bytes all the while, but a trigger takes the new-data bit off every slot that
it has no field for, so nothing older is acceptable (`Model.Shows`).

The tray keeps account of the fields from the exchanges alone. It is shown that the device holds
what the tray says, and that a completed read takes what was latched; so no field is reported twice,
and none that was staged after the trigger is reported by its read
(`newest_latched_field_is_stored`).
-/

namespace AirStation.Bme68x

/-- The fields between staging and reading, as they can be told from what has been staged and
exchanged. -/
structure Tray where
  staged : List SimulatedField
  /-- Those of the last measurement, until they are read. -/
  latched : Option (List SimulatedField)

namespace Tray

/-- A trigger takes all that is staged, and a read of the fields uses up what was latched. Neither
does anything unless it is acknowledged. -/
def exchanged (t : Tray) (e : Exchange) : Tray :=
  if e.acknowledged then
    match e.transfer with
    | .write [register, value] =>
      if register = Register.measurementControl ∧ value &&& 0x03 ≠ 0 then ⟨[], some t.staged⟩
      else t
    | .writeRead [register] _ =>
      if register = Register.fields then { t with latched := none } else t
    | _ => t
  else t

/-- Only the staging of fields concerns the tray, and it replaces what was staged before. There are
three slots, so more than three fields are not kept. -/
def disturbed (t : Tray) : Disturbance → Tray
  | .stage fields => { t with staged := fields.take 3 }
  | _ => t

/-- A call counts for its exchanges, in their order, whether it succeeded or not. -/
def after (t : Tray) : Happening Event Driver Call → Tray
  | .called e => e.exchanges.foldl exchanged t
  | .disturbed d => t.disturbed d

variable (t : Tray)

@[simp] theorem exchanged_failed (address : UInt8) (transfer : Transfer) (fault : Fault) :
    t.exchanged (.failed address transfer fault) = t :=
  rfl

theorem exchanged_trigger (address : UInt8) {value : UInt8} (h : value &&& 0x03 ≠ 0) :
    t.exchanged (.wrote address [Register.measurementControl, value]) = ⟨[], some t.staged⟩ := by
  have htrigger : Register.measurementControl = Register.measurementControl ∧ value &&& 0x03 ≠ 0 :=
    ⟨rfl, h⟩
  exact if_pos htrigger

@[simp] theorem exchanged_burst (address : UInt8) {count : Nat} (bytes : Vector UInt8 count) :
    t.exchanged (.fetched address Register.fields bytes) = { t with latched := none } :=
  rfl

/-- Nothing that a set-up sends is a trigger or a read of the fields. -/
theorem exchanged_setup {e : Exchange} (h : SetupTransfer e.transfer) : t.exchanged e = t := by
  unfold exchanged
  split
  · generalize e.transfer = transfer at h
    cases h with
    | reset => rfl
    | configure w hcontrol hasleep => exact if_neg fun htrigger => htrigger.2 (hasleep.2 htrigger.1)
    | read register count hregister => exact if_neg hregister
  · rfl

theorem foldl_exchanged_setup {address : UInt8} {actions : List (Action Event)}
    (h : ∀ action ∈ actions, Installs address action) :
    (actions.filterMap Action.exchange?).foldl exchanged t = t := by
  induction actions with
  | nil => rfl
  | cons action rest ih =>
    obtain ⟨haction, hrest⟩ := List.forall_mem_cons.mp h
    cases action with
    | exchanged e =>
      rw [Action.exchanges_exchanged, List.foldl_cons, t.exchanged_setup haction.2, ih hrest]
    | paused | reported => exact ih hrest

end Tray

/-- Of fields that were latched, the last one that the settings read and accept. Forced mode reads
one slot and parallel mode all three. -/
def newest (s : Settings) (fields : List SimulatedField) : Option SimulatedField :=
  ((fields.take s.mode.fieldCount).filter (·.qualifies s)).getLast?

/-- What a part with this variant and calibration makes of the newest field. -/
def newestReading (s : Settings) (part : Variant × Calibration) (fields : List SimulatedField) :
    Option Reading :=
  (newest s fields).map fun f => compensate s part.1 part.2 f.raw

namespace Driver

/-- A set-up is described by what it learns and what it installs, and an update by its list of
outcomes. -/
def Outcome (d : Driver) : Call → List (Action Event) → Driver → Prop
  | .init now => fun actions d' =>
    ∃ result, d.Learns now actions (result, d') ∧ ∀ action ∈ actions, Installs d.address action
  | .update now => d.Update now

theorem step_outcome (d : Driver) (c : Call) : (d.step c).Always (d.Outcome c) := by
  cases c with
  | init now =>
    have hinstalls := (BusM.does_iff_always _ _).mp (d.init_installs now)
    exact ((d.init_learns now).and hinstalls).snd
  | update now => exact d.update_always now

/-- A call that reads the fields and gets them. It completes the cycle, whether or not a field is
acceptable. -/
def Collects (e : Episode Event Driver Call) : Prop :=
  ∃ x ∈ e.exchanges, x.acknowledged ∧ ∃ count, x.transfer = .writeRead [Register.fields] count

/-- The call keeps the reading and marks the time, or there is none and neither of the two
changes. -/
def Stores (e : Episode Event Driver Call) (now : Micros) : Option Reading → Prop
  | some reading =>
    e.after.latest = some reading ∧ e.after.timer.lastSuccess = some now
  | none =>
    e.after.latest = e.before.latest ∧ e.after.timer.lastSuccess = e.before.timer.lastSuccess

/-- A session of a new driver, with calls and disturbances in any order. -/
def session (address : UInt8) (interval : Micros) (settings : Settings) (bus : SimulatedBus)
    (turns : List (Turn Call)) : Session Event Driver Call :=
  (Session.start (create address interval settings) bus).play step turns

/-- The driver knows its part, and the device holds what the tray says. While a conversion waits,
the slots show the fields that were latched. -/
structure Supplied (settings : Settings) (part : Variant × Calibration) (t : Tray) (d : Driver)
    (m : Model) : Prop where
  settings_eq : d.settings = settings
  part_eq : m.part = part
  knows : d.Knows m
  staged_eq : m.staged = t.staged
  shows : ∀ stage, d.phase = .waitingForConversion stage →
    ∃ fields, t.latched = some fields ∧ m.Shows fields

section Calls

variable {settings : Settings} {part : Variant × Calibration} {t : Tray} {d d' : Driver}
  {now : Micros} {c : Call} {actions : List (Action Event)} {m m' : Model}

theorem Learns.unchanged {result : Except SensorError Unit}
    (h : d.Learns now actions (result, d')) :
    d'.address = d.address ∧ d'.settings = d.settings ∧ d'.latest = d.latest ∧
      d'.timer.lastSuccess = d.timer.lastSuccess := by
  cases h <;> exact ⟨rfl, rfl, rfl, rfl⟩

theorem Outcome.address_eq (h : d.Outcome c actions d') : d'.address = d.address := by
  cases c with
  | init now =>
    obtain ⟨result, hlearns, -⟩ := h
    exact hlearns.unchanged.1
  | update now => exact Update.address_eq h

/-- A set-up that has learnt all there is leaves the device with what was staged. If it fails while
a conversion waits, the slots still show the latched fields, since a reset does not reach them. -/
theorem Learns.supplied {result : Except SensorError Unit}
    (h : d.Learns now actions (result, d'))
    (hinstalls : ∀ action ∈ actions, Installs d.address action)
    (hgenuine : AllGenuine d.address m (actions.filterMap Action.exchange?))
    (hknows : d.Knows m ∨ result = .ok ())
    (hshows : ∀ stage, d.phase = .waitingForConversion stage →
      ∃ fields, t.latched = some fields ∧ m.Shows fields)
    (hstaged : m.staged = t.staged) :
    Supplied d.settings m.part ((actions.filterMap Action.exchange?).foldl Tray.exchanged t) d'
      ((actions.filterMap Action.exchange?).foldl (served d.address) m) := by
  have hkeeps : ∀ action ∈ actions, action.Keeps d.address Model.memory :=
    fun action haction => (hinstalls action haction).keeps d.address
  have hmemory := foldl_served_eq hkeeps m
  have hpart := Model.part_of_memory hmemory
  rw [t.foldl_exchanged_setup hinstalls]
  constructor
  · exact h.unchanged.2.1
  · exact hpart
  · exact (h.knows hinstalls hgenuine hknows).trans hpart.symm
  · exact (Model.staged_of_memory hmemory).trans hstaged
  · intro stage hphase
    have hbefore : d.phase = .waitingForConversion stage := by
      cases h with
      | nothing | identified | calibrated => exact hphase
      | ready => nomatch hphase
    obtain ⟨fields, hlatched, hfields⟩ := hshows stage hbefore
    exact ⟨fields, hlatched, hfields.of_memory hmemory⟩

/-- The cycle is over, and nothing has been measured or staged by the call. -/
theorem Supplied.rest (h : Supplied settings part t d m) {t' : Tray} {d' : Driver} {m' : Model}
    (hstaged : t'.staged = t.staged) (hmemory : m'.memory = m.memory)
    (hsettings : d'.settings = d.settings)
    (hknown : (d'.variant, d'.calibration) = (d.variant, d.calibration))
    (hphase : d'.phase = .waitingForInterval) : Supplied settings part t' d' m' := by
  have hpart := Model.part_of_memory hmemory
  constructor
  · exact hsettings.trans h.settings_eq
  · exact hpart.trans h.part_eq
  · exact (hknown.trans h.knows).trans hpart.symm
  · exact ((Model.staged_of_memory hmemory).trans h.staged_eq).trans hstaged.symm
  · intro stage hconversion
    rw [hphase] at hconversion
    nomatch hconversion

/-- A trigger that is acknowledged moves what was staged into the slots, and the tray with it. -/
theorem Supplied.trigger (h : Supplied settings part t d m) {value : UInt8}
    (hvalue : value &&& 0x03 ≠ 0) (hsettings : d'.settings = d.settings)
    (hknown : (d'.variant, d'.calibration) = (d.variant, d.calibration)) :
    Supplied settings part ⟨[], some t.staged⟩ d'
      (Responder.receive m [Register.measurementControl, value]) := by
  let written := m.setRegister Register.measurementControl value
  have hmemory : written.memory = m.memory := m.memory_setRegister (by decide) value
  have hpart : (written.measure (value &&& 0x03)).part = m.part :=
    (written.part_measure _).trans (Model.part_of_memory hmemory)
  rw [m.receive_trigger hvalue]
  constructor
  · exact hsettings.trans h.settings_eq
  · exact hpart.trans h.part_eq
  · exact (hknown.trans h.knows).trans hpart.symm
  · exact written.staged_measure _
  · intro stage hphase
    refine ⟨t.staged, rfl, ?_⟩
    rw [← h.staged_eq]
    exact written.shows_measure _

/-- Each outcome of an update keeps driver, device and tray in step. -/
theorem Update.supplied (h : d.Update now actions d') (hsupplied : Supplied settings part t d m) :
    Supplied settings part ((actions.filterMap Action.exchange?).foldl Tray.exchanged t) d'
      ((actions.filterMap Action.exchange?).foldl (served d.address) m) := by
  cases h with
  | rested hdue => exact hsupplied
  | started hphase hdue =>
    have hmode := measuring_mode d.settings
    simp only [Action.exchanges_exchanged, List.filterMap_nil, List.foldl_cons, List.foldl_nil,
      t.exchanged_trigger d.address hmode, served_wrote]
    exact hsupplied.trigger hmode rfl rfl
  | startRefused | unread =>
    refine hsupplied.rest ?_ ?_ rfl rfl rfl
    all_goals simp
  | nothingNew stage hphase hdue bytes | measured stage hphase hdue bytes =>
    refine hsupplied.rest ?_ ?_ rfl rfl rfl
    · simp [Function.comp_def]
    -- The read has moved the pointer and nothing else.
    · simp [Function.comp_def]
      rfl

/-- A burst read of slots that show the fields gives the reading of the newest one, if there is
one. -/
theorem newest?_burst {fields : List SimulatedField} (hknows : d.Knows m)
    (hshows : m.Shows fields) :
    d.newest? (d.fieldsOf (m.block Register.fields (fieldLength * d.settings.mode.fieldCount))) =
      newestReading d.settings m.part fields := by
  have hcount : d.settings.mode.fieldCount ≤ 3 := by
    cases d.settings.mode <;> decide
  have hvariant : d.variant = m.variant := congrArg Prod.fst hknows
  have hcalibration : d.calibration = m.trimming := congrArg Prod.snd hknows
  rw [fieldsOf, newest?, hvariant, hshows.filter_burst d.settings hcount, List.getLast?_map,
    Option.map_map, newestReading, newest, hcalibration]
  rfl

theorem not_collects_wrote (bytes : List UInt8) (d' : Driver) :
    ¬ Collects ⟨d, c, [.exchanged (.wrote d.address bytes)], d'⟩ := by
  rintro ⟨x, hx, -, count, hread⟩
  obtain rfl : x = _ := by simpa [Episode.exchanges] using hx
  nomatch hread

/-- An update that gets the fields belongs to a measurement whose fields are still latched. It
stores the newest reading of these. -/
theorem Update.delivers (h : d.Update now actions d') (hsupplied : Supplied settings part t d m)
    (hgenuine : AllGenuine d.address m (actions.filterMap Action.exchange?))
    (hcollects : Collects ⟨d, .update now, actions, d'⟩) :
    ∃ fields, t.latched = some fields ∧
      Stores ⟨d, .update now, actions, d'⟩ now (newestReading settings part fields) := by
  cases h with
  | rested | startRefused | unread => simp [Collects, Episode.exchanges] at hcollects
  | started => exact absurd hcollects (not_collects_wrote _ _)
  | nothingNew stage hphase hdue bytes hfields | measured stage hphase hdue bytes reading hfields =>
    obtain ⟨fields, hlatched, hshows⟩ := hsupplied.shows stage hphase
    obtain rfl : bytes = m.block Register.fields _ := by
      simpa [Function.comp_def] using hgenuine
    rw [newest?_burst hsupplied.knows hshows, hsupplied.settings_eq, hsupplied.part_eq] at hfields
    refine ⟨fields, hlatched, ?_⟩
    rw [hfields]
    exact ⟨rfl, rfl⟩

/-- An update that does not get the fields leaves the latest reading and its time alone. -/
theorem Update.unchanged (h : d.Update now actions d')
    (hcollects : ¬ Collects ⟨d, .update now, actions, d'⟩) :
    d'.latest = d.latest ∧ d'.timer.lastSuccess = d.timer.lastSuccess := by
  cases h with
  | rested | started | startRefused | unread => exact ⟨rfl, rfl⟩
  | nothingNew | measured => exact absurd ⟨_, List.mem_cons_self, rfl, _, rfl⟩ hcollects

theorem not_collects_setup (hinstalls : ∀ action ∈ actions, Installs d.address action) :
    ¬ Collects ⟨d, c, actions, d'⟩ := by
  rintro ⟨x, hx, -, count, hread⟩
  have htransfer := (hinstalls _ (Action.mem_exchanges.mp hx)).2
  rw [hread] at htransfer
  cases htransfer with
  | read register count hregister => exact hregister rfl

theorem Outcome.supplied (h : d.Outcome c actions d') (hsupplied : Supplied settings part t d m)
    (hgenuine : AllGenuine d.address m (actions.filterMap Action.exchange?)) :
    Supplied settings part ((actions.filterMap Action.exchange?).foldl Tray.exchanged t) d'
      ((actions.filterMap Action.exchange?).foldl (served d.address) m) := by
  cases c with
  | init now =>
    obtain ⟨result, hlearns, hinstalls⟩ := h
    rw [← hsupplied.settings_eq, ← hsupplied.part_eq]
    exact hlearns.supplied hinstalls hgenuine (.inl hsupplied.knows) hsupplied.shows
      hsupplied.staged_eq
  | update now => exact Update.supplied h hsupplied

/-- Staging is taken over by the tray, and no other disturbance touches staged fields or slots. -/
theorem Supplied.disturbed (h : Supplied settings part t d m) (disturbance : Disturbance) :
    Supplied settings part (t.disturbed disturbance) d (m.disturbed disturbance) := by
  cases disturbance with
  | stage fields =>
    refine ⟨h.settings_eq, h.part_eq, h.knows, rfl, fun stage hphase => ?_⟩
    obtain ⟨shown, hlatched, hshows⟩ := h.shows stage hphase
    exact ⟨shown, hlatched, hshows.congr rfl fun _ => rfl⟩
  | failNext | setOffline | setTemperature | setHumidity | setCorrupt | publish | raiseError =>
    exact h

end Calls

/-- The tray of a session, which starts with what the device has been given before and with nothing
latched. -/
def trayOf (m : Model) (past : List (Happening Event Driver Call)) : Tray :=
  past.foldl Tray.after ⟨m.staged, none⟩

section Sessions

variable {address : UInt8} {interval : Micros} {settings : Settings} {bus : SimulatedBus}
  {m : Model} {now : Micros}

theorem supplied_ready (hat : Model.AnswersAt address bus m)
    (hready : (((create address interval settings).init now).run bus).value.1 = .ok ()) :
    let s := session address interval settings bus [.call (.init now)]
    ∃ m', Model.AnswersAt address s.bus m' ∧ s.state.address = address ∧
      Supplied settings m.part (trayOf m s.past) s.state m' := by
  let d := create address interval settings
  let run := (d.init now).run bus
  have hsession : session address interval settings bus [.call (.init now)] =
      ⟨run.value.2, run.bus, [.called ⟨d, .init now, run.actions, run.value.2⟩]⟩ := by
    simp only [session, Session.play, Session.start, List.foldl_cons, List.foldl_nil, Session.take,
      Session.episode, step, BusM.run_map, List.nil_append, d, run]
  obtain ⟨hgenuine, hafter⟩ := (Model.wired address).run (d.init now) hat
  have hlearns : d.Learns now run.actions (run.value.1, run.value.2) := (d.init_learns now).run bus
  have hinstalls : ∀ action ∈ run.actions, Installs address action :=
    ((BusM.does_iff_always _ _).mp (d.init_installs now)).run bus
  have hidle : ∀ stage, d.phase = .waitingForConversion stage →
      ∃ fields, (⟨m.staged, none⟩ : Tray).latched = some fields ∧ m.Shows fields :=
    fun _ hphase => nomatch hphase
  intro s
  rw [show s = _ from hsession]
  exact ⟨_, hafter, hlearns.unchanged.1,
    hlearns.supplied hinstalls hgenuine (.inr hready) hidle rfl⟩

/-- After a set-up that succeeded, driver, device and tray stay in step over all calls and
disturbances. -/
theorem supplied_session (hat : Model.AnswersAt address bus m)
    (hready : (((create address interval settings).init now).run bus).value.1 = .ok ())
    (turns : List (Turn Call)) :
    let s := session address interval settings bus (.call (.init now) :: turns)
    ∃ m', Model.AnswersAt address s.bus m' ∧ s.state.address = address ∧
      Supplied settings m.part (trayOf m s.past) s.state m' := by
  obtain ⟨ready, hatReady, haddress, hready⟩ := supplied_ready hat hready
  refine Session.attached_invariant (s := session address interval settings bus [.call (.init now)])
    (Model.wired address) step_outcome (fun _ => True)
    (fun past d m' => d.address = address ∧ Supplied settings m.part (trayOf m past) d m')
    ?_ ?_ hatReady ⟨haddress, hready⟩ (fun _ _ => trivial)
  · rintro past d c actions d' m' - ⟨rfl, hsupplied⟩ houtcome hgenuine
    refine ⟨houtcome.address_eq, ?_⟩
    rw [trayOf, List.foldl_append]
    exact houtcome.supplied hsupplied hgenuine
  · rintro past d disturbance m' - ⟨haddress, hsupplied⟩
    refine ⟨haddress, ?_⟩
    rw [trayOf, List.foldl_append]
    exact hsupplied.disturbed disturbance

end Sessions

/-- Over a bus on which a BME68x answers the driver, after a set-up that succeeded and for all
calls, staged fields and faults in any order: the device holds just what was staged since the last
trigger, and a read that is completed belongs to a measurement that has not been read yet. It
stores the last field of that measurement that the settings read and accept, in the terms of the
part, and when there is none it leaves the reading alone, as every other call does. -/
theorem newest_latched_field_is_stored (address : UInt8) (interval : Micros) (settings : Settings)
    (bus : SimulatedBus) (m : Model) (now : Micros) (turns : List (Turn Call))
    (hat : Model.AnswersAt address bus m)
    (hready : (((create address interval settings).init now).run bus).value.1 = .ok ()) :
    let s := session address interval settings bus (.call (.init now) :: turns)
    let tray := trayOf m s.past
    (∃ m', Model.AnswersAt address s.bus m' ∧ m'.staged = tray.staged) ∧
    ∀ c,
      let e := s.episode step c
      (Collects e → ∃ now fields, c = .update now ∧ tray.latched = some fields ∧
        Stores e now (newestReading settings (m.variant, m.trimming) fields)) ∧
      (¬ Collects e → e.after.latest = e.before.latest ∧
        e.after.timer.lastSuccess = e.before.timer.lastSuccess) := by
  intro s tray
  obtain ⟨m', hat', haddress, hsupplied⟩ := supplied_session hat hready turns
  refine ⟨⟨m', hat', hsupplied.staged_eq⟩, ?_⟩
  intro c e
  have houtcome : s.state.Outcome c e.actions e.after := (step_outcome s.state c).run s.bus
  cases c with
  | init later =>
    obtain ⟨result, hlearns, hinstalls⟩ := houtcome
    exact ⟨fun hcollects => absurd hcollects (not_collects_setup hinstalls),
      fun _ => hlearns.unchanged.2.2⟩
  | update later =>
    have hgenuine : AllGenuine s.state.address m' e.exchanges := by
      rw [show s.state.address = address from haddress]
      exact Session.episode_genuine (Model.wired address) hat' _
    constructor
    · intro hcollects
      obtain ⟨fields, hlatched, hstores⟩ := Update.delivers houtcome hsupplied hgenuine hcollects
      exact ⟨later, fields, rfl, hlatched, hstores⟩
    · exact Update.unchanged houtcome

/-- The first trigger fails and the fields wait for the next one. The last of them is not accepted,
since its heater was not stable. -/
theorem newest_latched_field_is_stored_parallel :
    let settings : Settings := { Settings.standard with mode := .parallel }
    let cool : SimulatedField := { SimulatedField.valid with temperature := 480000 }
    let unstable : SimulatedField := { SimulatedField.valid with heatStable := false }
    let turns : List (Turn Call) := [.disturb (.stage [.valid, cool, unstable]),
      .disturb (.failNext 0x76), .call (.update 1000000), .call (.update 2000000)]
    let s := session 0x76 1000000 settings Model.standard.lone (.call (.init 0) :: turns)
    let e := s.episode step (.update 3000000)
    e.after.latest = some (compensate settings .gasLow Model.standard.trimming cool.raw) ∧
      e.after.timer.lastSuccess = some 3000000 := by
  intro settings cool unstable turns s e
  obtain ⟨hready, hexchanges, htray⟩ :
      (((create 0x76 1000000 settings).init 0).run Model.standard.lone).value.1 = .ok () ∧
        e.exchanges.map (fun x => (x.acknowledged, x.transfer)) = [(true, .writeRead [0x1D] 51)] ∧
        (trayOf Model.standard s.past).latched = some [.valid, cool, unstable] := by
    decide +kernel
  have hcollects : Collects e := by
    obtain ⟨x, hx, hread⟩ := List.map_eq_singleton_iff.mp hexchanges
    obtain ⟨hacknowledged, htransfer⟩ := Prod.mk.inj hread
    exact ⟨x, by simp [hx], hacknowledged, 51, htransfer⟩
  have hvariant : Model.standard.variant = .gasLow := by decide +kernel
  have hnewest : newest settings [.valid, cool, unstable] = some cool := by decide +kernel
  obtain ⟨-, hcalls⟩ := newest_latched_field_is_stored 0x76 1000000 settings _ _ 0 turns
    Model.standard.answersAt_lone hready
  have hstored : ∃ now fields, Call.update 3000000 = .update now ∧
      (trayOf Model.standard s.past).latched = some fields ∧
      Stores e now
        (newestReading settings (Model.standard.variant, Model.standard.trimming) fields) :=
    (hcalls (.update 3000000)).1 hcollects
  obtain ⟨now, fields, hcall, hlatched, hstores⟩ := hstored
  obtain rfl : 3000000 = now := Call.update.inj hcall
  obtain rfl : [.valid, cool, unstable] = fields := Option.some.inj (htray.symm.trans hlatched)
  rwa [newestReading, hnewest, hvariant] at hstores

end Driver

end AirStation.Bme68x
