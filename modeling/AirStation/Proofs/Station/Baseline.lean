import AirStation.Proofs.Baseline.Record
import AirStation.Proofs.Ccs811.Device
import AirStation.Proofs.Station.Isolation

/-!
The baseline of a CCS811, read from one station, stored, and restored to another or to the same.
Nothing but a restore changes the baseline register: the other sensors stay at their addresses, and
of the CCS811 driver's own calls no other writes there.

The sessions have disturbances of all kinds between their calls, so a baseline also survives
injected failures, addresses that go offline, and new results. The record in between is a byte
string, and it is enough that its front part is intact (`saved_baseline_survives`).
-/

namespace AirStation

/-- No other enabled sensor is at the address of the CCS811. Its address is part of the
configuration, so this has to be asked. -/
def Config.Ccs811Alone (c : Config) : Prop :=
  ∀ sensor, c.address? sensor = some c.ccs811.address → sensor = .ccs811

namespace Station

open Blob (Number)

def session (c : Config) (bus : SimulatedBus) (turns : List (Turn Call)) :
    Session Event Station Call :=
  (Session.start (ofConfig c) bus).play step turns

/-- The CCS811 is enabled and has its address for itself, and its device answers there. -/
structure OwnsCcs811 (c : Config) (bus : SimulatedBus) : Prop where
  enabled : c.ccs811.enabled = true
  alone : c.Ccs811Alone
  device : ∃ m, Ccs811.Model.AnswersAt c.ccs811.address bus m

def baselineRegister (bus : SimulatedBus) : Option UInt16 :=
  bus.ccs811.map (·.baseline)

/-- The turns do not restore a baseline, whatever else they do. -/
def NoRestore (turns : List (Turn Call)) : Prop :=
  ∀ t ∈ turns, ∀ record, t ≠ .call (.restoreBaseline record)

section Keeping

variable {σ γ : Type}

theorem keeps_of_to {δ : Type} [Responder δ] {address other : UInt8} {quantity : δ → γ}
    {m : SensorM σ} (hm : m.Does (·.To (· = other))) (hother : other ≠ address) :
    m.Does (Action.Keeps address quantity) := by
  apply hm.mono
  intro action haction
  apply Action.To.keeps
  apply haction.mono
  rintro _ rfl
  exact hother

end Keeping

section Calls

variable {c : Config} {s : Station}

theorem elsewhere (halone : c.Ccs811Alone)
    {sensor : Sensor} {address : UInt8} (haddress : c.address? sensor = some address)
    (hsensor : sensor ≠ .ccs811) : address ≠ c.ccs811.address := by
  rintro rfl
  exact hsensor (halone sensor haddress)

theorem Placed.address_ccs811 (hs : Placed c s) {d : Ccs811.Driver} (hd : s.ccs811 = some d) :
    d.address = c.ccs811.address :=
  (Config.address?_ccs811.mp (hs.ccs811 d hd)).2.symm

theorem init_keeps_baseline (halone : c.Ccs811Alone)
    (hs : Placed c s) (now : Micros) :
    (s.init now).Does (Action.Keeps c.ccs811.address Ccs811.Model.baseline) := by
  apply init_does (fun _ => trivial)
  · exact fun d hd => keeps_of_to (d.init_does now) (elsewhere halone (hs.htu21d d hd) nofun)
  · intro d hd
    rw [← hs.address_ccs811 hd]
    exact .of_always (d.init_always now) fun _ _ h => h.keeps_baseline
  · exact fun d hd => keeps_of_to (d.init_does now) (elsewhere halone (hs.bme68x d hd) nofun)

theorem poll_keeps_baseline (halone : c.Ccs811Alone)
    (hs : Placed c s) (now : Micros) :
    (s.poll now).Does (Action.Keeps c.ccs811.address Ccs811.Model.baseline) := by
  apply poll_does
  · exact fun d hd => keeps_of_to (d.update_does now) (elsewhere halone (hs.htu21d d hd) nofun)
  · intro htu21d _ d hd
    have hplaced := finds_feedEnvironment (s := { s with htu21d }) hs.ccs811 d hd
    rw [(Config.address?_ccs811.mp hplaced).2]
    exact .of_always (d.update_always now) fun _ _ h => h.keeps_baseline
  · intro htu21d d hd
    rw [bme68x_feedEnvironment] at hd
    exact keeps_of_to (d.update_does now) (elsewhere halone (hs.bme68x d hd) nofun)

theorem baseline_keeps_baseline (hs : Placed c s) :
    s.baseline.Does (Action.Keeps c.ccs811.address Ccs811.Model.baseline) := by
  apply baseline_does
  intro d hd
  rw [← hs.address_ccs811 hd]
  exact .of_always d.readBaseline_always fun _ _ h => h.keeps_baseline

/-- No call but a restore changes the baseline of the device, whether the call succeeds or fails. -/
theorem step_keeps_baseline (halone : c.Ccs811Alone)
    (hs : Placed c s) {call : Call} (hcall : ∀ record, call ≠ .restoreBaseline record) :
    (s.step call).Does (Action.Keeps c.ccs811.address Ccs811.Model.baseline) := by
  apply step_does
  · exact fun now _ => init_keeps_baseline halone hs now
  · exact fun now _ => poll_keeps_baseline halone hs now
  · exact fun _ => baseline_keeps_baseline hs
  · exact fun record hrestore => absurd hrestore (hcall record)

end Calls

theorem isSome_feedEnvironment (s : Station) :
    (feedEnvironment s).ccs811.isSome = s.ccs811.isSome := by
  rcases ccs811_feedEnvironment s with hsame | ⟨d, _, _, hd, hfed⟩
  · rw [hsame]
  · rw [hfed, hd]
    rfl

theorem Step.isSome_ccs811 {s s' : Station} {call : Call} {actions : List (Action Event)}
    (h : s.Step call actions s') : s'.ccs811.isSome = s.ccs811.isSome := by
  cases call with
  | init now =>
    obtain ⟨-, hccs, -, -⟩ := h
    exact hccs.isSome_eq
  | poll now =>
    obtain ⟨-, rfl, hccs, -⟩ := h
    exact hccs.isSome_eq.trans (isSome_feedEnvironment _)
  | baseline =>
    cases h with
    | absent hccs => rfl
    | present hccs => simp [hccs]
  | restoreBaseline record =>
    cases h with
    | absent hccs => rfl
    | present hccs => simp [hccs]

theorem baseline_read (s : Station) :
    s.baseline.Always fun actions outcome => ∀ record, outcome.1 = .ok (some record) →
      ∃ d d' value, s.ccs811 = some d ∧ record = .ofBaseline value ∧
        d.ReadBaseline actions (.ok value, d') := by
  unfold baseline
  cases hccs : s.ccs811 with
  | none =>
    intro record hrecord
    nomatch hrecord
  | some d =>
    refine d.readBaseline_always.bind fun actions outcome hread => ?_
    obtain ⟨result, d'⟩ := outcome
    rintro record hrecord
    cases result with
    | error error => nomatch hrecord
    | ok value =>
      obtain rfl := Option.some.inj (Except.ok.inj hrecord)
      exact ⟨d, d', value, rfl, rfl, by simpa using hread⟩

theorem restoreBaseline_written {s : Station} {d : Ccs811.Driver} (hccs : s.ccs811 = some d)
    (record : BaselineRecord) :
    (s.restoreBaseline record).Always fun actions outcome => outcome.1 = .ok () →
      ∃ d', d.WriteBaseline record.baseline actions (.ok (), d') := by
  unfold restoreBaseline
  rw [hccs]
  refine (d.writeBaseline_always record.baseline).bind fun actions outcome hwritten => ?_
  obtain ⟨result, d'⟩ := outcome
  rintro rfl
  exact ⟨d', by simpa using hwritten⟩

section Sessions

variable {c : Config} {bus : SimulatedBus} {s : Session Event Station Call} {m : Ccs811.Model}

/-- The CCS811 is there throughout a session, and so is its device. -/
theorem OwnsCcs811.session (h : OwnsCcs811 c bus) (turns : List (Turn Call)) :
    ∃ m, Ccs811.Model.AnswersAt c.ccs811.address (session c bus turns).bus m ∧
      Placed c (session c bus turns).state ∧
      (session c bus turns).state.ccs811.isSome = true := by
  obtain ⟨m, hat⟩ := h.device
  apply Session.attached_invariant (Ccs811.Model.wired c.ccs811.address) step_always
    (fun _ => True) (fun _ s _ => Placed c s ∧ s.ccs811.isSome = true)
  · rintro past s call actions s' m' - ⟨hplaced, hsome⟩ hstep -
    exact ⟨hplaced.step hstep, hstep.isSome_ccs811.trans hsome⟩
  · rintro past s d m' - hstation
    exact hstation
  · exact hat
  · exact ⟨placed_ofConfig c, by simp [Session.start, ofConfig, h.enabled]⟩
  · exact fun _ _ => trivial

theorem play_keeps_baseline (halone : c.Ccs811Alone)
    (hs : Placed c s.state) (hat : Ccs811.Model.AnswersAt c.ccs811.address s.bus m)
    {turns : List (Turn Call)} (hturns : NoRestore turns) :
    ∃ m', Ccs811.Model.AnswersAt c.ccs811.address (s.play step turns).bus m' ∧
      Placed c (s.play step turns).state ∧ m'.baseline = m.baseline := by
  have hkeeps : ∀ s call, (step s call).Always fun actions s' =>
      Placed c s → (∀ record, call ≠ .restoreBaseline record) →
        Placed c s' ∧ ∀ action ∈ actions,
          action.Keeps c.ccs811.address Ccs811.Model.baseline := by
    intro s call
    by_cases h : Placed c s ∧ ∀ record, call ≠ .restoreBaseline record
    · have hkeeps := (BusM.does_iff_always _ _).mp (step_keeps_baseline halone h.1 h.2)
      exact ((s.step_always call).and hkeeps).mono fun _ _ hboth _ _ =>
        ⟨h.1.step hboth.1, hboth.2⟩
    · exact .of_forall _ fun _ _ hplaced hcall => absurd ⟨hplaced, hcall⟩ h
  apply Session.attached_invariant (Ccs811.Model.wired c.ccs811.address) hkeeps
    (fun t => ∀ record, t ≠ .call (.restoreBaseline record))
    (fun _ s m' => Placed c s ∧ m'.baseline = m.baseline)
  · rintro past s call actions s' m' hallowed ⟨hplaced, hbaseline⟩ houtcome -
    have hcall : ∀ record, call ≠ .restoreBaseline record := fun record hrestore =>
      hallowed record (congrArg Turn.call hrestore)
    obtain ⟨hplaced', hactions⟩ := houtcome hplaced hcall
    exact ⟨hplaced', (foldl_served_eq hactions m').trans hbaseline⟩
  · rintro past s d m' - ⟨hplaced, hbaseline⟩
    refine ⟨hplaced, Eq.trans ?_ hbaseline⟩
    cases d <;> rfl
  · exact hat
  · exact ⟨hs, rfl⟩
  · exact hturns

theorem play_baselineRegister (halone : c.Ccs811Alone)
    (hs : Placed c s.state) (hat : Ccs811.Model.AnswersAt c.ccs811.address s.bus m)
    {turns : List (Turn Call)} (hturns : NoRestore turns) :
    baselineRegister (s.play step turns).bus = some m.baseline := by
  obtain ⟨m', hat', -, hbaseline⟩ := play_keeps_baseline halone hs hat hturns
  rw [baselineRegister, hat'.present]
  exact congrArg some hbaseline

theorem read_baselineRegister (hs : Placed c s.state)
    (hat : Ccs811.Model.AnswersAt c.ccs811.address s.bus m) {record : BaselineRecord}
    (hread : (s.state.baseline.run s.bus).value.1 = .ok (some record)) :
    record = .ofBaseline m.baseline := by
  obtain ⟨d, d', value, hd, rfl, houtcome⟩ := s.state.baseline_read.run s.bus record hread
  have hgenuine := ((Ccs811.Model.wired c.ccs811.address).run s.state.baseline hat).1
  rw [← hs.address_ccs811 hd] at hgenuine
  rw [houtcome.value_eq hgenuine]

/-- A restore that succeeds leaves its value, and it stays until the next one. -/
theorem restored_baselineRegister (halone : c.Ccs811Alone)
    (hsome : s.state.ccs811.isSome = true) (hs : Placed c s.state)
    (hat : Ccs811.Model.AnswersAt c.ccs811.address s.bus m) {record : BaselineRecord}
    (hwritten : ((s.state.restoreBaseline record).run s.bus).value.1 = .ok ())
    {later : List (Turn Call)} (hlater : NoRestore later) :
    baselineRegister (s.play step (.call (.restoreBaseline record) :: later)).bus =
      some record.baseline := by
  obtain ⟨d, hd⟩ := Option.isSome_iff_exists.mp hsome
  obtain ⟨d', houtcome⟩ := (restoreBaseline_written hd record).run s.bus hwritten
  have hafter := ((Ccs811.Model.wired c.ccs811.address).run
    (step s.state (.restoreBaseline record)) hat).2
  have hplaced := hs.step (((step_always s.state (.restoreBaseline record)).run s.bus))
  have hvalue := houtcome.baseline_eq m
  rw [hs.address_ccs811 hd] at hvalue
  have hactions : ((step s.state (.restoreBaseline record)).run s.bus).exchanges =
      ((s.state.restoreBaseline record).run s.bus).exchanges := by
    rw [step, BusM.run_map]
    rfl
  rw [hactions] at hafter
  rw [← hvalue]
  exact play_baselineRegister halone (s := s.take step (.call (.restoreBaseline record)))
    hplaced hafter hlater

end Sessions

/-- Bytes are a record exactly if they start with the version and a spelling of the value, whatever
follows; those of another version are told apart once they are complete. Every record fits, and one
that is cut short, or erased memory, is no record. A baseline that is read, stored and restored to a
station is what the register of the one device held and what that of the other holds until the next
restore, whatever else is called or goes wrong. -/
theorem saved_baseline_survives :
    (∀ bytes record, BaselineRecord.decode bytes = .ok record ↔ record.version = 1 ∧
      ∃ used rest, bytes = 1 :: (used ++ rest) ∧ Number .bits16 used record.baseline.toNat) ∧
    (∀ bytes version, BaselineRecord.decode bytes = .error (.unsupportedVersion version) ↔
      version ≠ 1 ∧ ∃ used rest n, bytes = version :: (used ++ rest) ∧ Number .bits16 used n) ∧
    (∀ record : BaselineRecord, record.encode BaselineRecord.maxLength = .ok record.toBlob) ∧
    (∀ baseline suffix,
      BaselineRecord.decode ((BaselineRecord.ofBaseline baseline).toBlob ++ suffix) =
        .ok (.ofBaseline baseline)) ∧
    (∀ (record : BaselineRecord) part missing, record.toBlob = part ++ missing → missing ≠ [] →
      BaselineRecord.decode part = .error (.decode .unexpectedEnd)) ∧
    (∀ count, ∃ error, BaselineRecord.decode (List.replicate count 0xFF) = .error error) ∧
    ∀ c c' bus bus' turns turns', OwnsCcs811 c bus → OwnsCcs811 c' bus' →
      let source := session c bus turns
      let target := session c' bus' turns'
      ∀ record capacity blob suffix restored,
        (source.state.baseline.run source.bus).value.1 = .ok (some record) →
        record.encode capacity = .ok blob → BaselineRecord.decode (blob ++ suffix) = .ok restored →
        ((target.state.restoreBaseline restored).run target.bus).value.1 = .ok () →
        baselineRegister source.bus = some record.baseline ∧
          ∀ later, NoRestore later →
            baselineRegister (source.play step (.call .baseline :: later)).bus =
              some record.baseline ∧
            baselineRegister (target.play step (.call (.restoreBaseline restored) :: later)).bus =
              some record.baseline := by
  refine ⟨fun _ _ => BaselineRecord.decode_eq_ok_iff,
    fun _ _ => BaselineRecord.decode_eq_unsupported_iff, BaselineRecord.encode_maxLength,
    BaselineRecord.decode_toBlob, fun _ _ _ => BaselineRecord.decode_cut,
    BaselineRecord.decode_erased, ?_⟩
  intro c c' bus bus' turns turns' hsource htarget source target record capacity blob suffix
    restored hread hencode hdecode hwritten
  obtain ⟨m, hat, hplaced, -⟩ := hsource.session turns
  obtain ⟨m', hat', hplaced', hsome'⟩ := htarget.session turns'
  obtain rfl : record = .ofBaseline m.baseline := read_baselineRegister hplaced hat hread
  obtain ⟨rfl, -⟩ := BaselineRecord.encode_eq_ok_iff.mp hencode
  obtain rfl : restored = .ofBaseline m.baseline :=
    Except.ok.inj (hdecode.symm.trans (BaselineRecord.decode_toBlob m.baseline suffix))
  refine ⟨congrArg (Option.map _) hat.present, fun later hlater => ⟨?_, ?_⟩⟩
  · apply play_baselineRegister hsource.alone hplaced hat
    exact List.forall_mem_cons.mpr ⟨nofun, hlater⟩
  · exact restored_baselineRegister htarget.alone hsome' hplaced' hat' hwritten hlater

/-- The standard configuration without the other two sensors. -/
def ccs811Only : Config :=
  { Config.standard with
    htu21d := { Config.standard.htu21d with enabled := false }
    bme68x := { Config.standard.bme68x with enabled := false } }

/-- A bus with only a CCS811, which has learnt the given baseline. -/
def ccs811Bus (baseline : UInt16) : SimulatedBus :=
  Ccs811.Model.lone { Ccs811.Model.standard with baseline }

theorem ownsCcs811_ccs811Bus (baseline : UInt16) : OwnsCcs811 ccs811Only (ccs811Bus baseline) where
  enabled := rfl
  alone sensor h := by
    cases sensor with
    | ccs811 => rfl
    | htu21d | bme68x => nomatch h
  device := ⟨_, Ccs811.Model.answersAt_lone { Ccs811.Model.standard with baseline }⟩

/-- A new device takes over what the old one had learnt, and a re-init and a poll do not change
that. -/
theorem saved_baseline_survives_moved :
    let target := session ccs811Only (ccs811Bus 0) [.call (.init 0)]
    let restore : Turn Call := .call (.restoreBaseline (.ofBaseline 0xA2B7))
    let later : List (Turn Call) :=
      [.disturb (.failNext 0x5A), .call (.init 5), .call (.poll 1000000)]
    baselineRegister target.bus = some 0 ∧
      baselineRegister (target.play step (restore :: later)).bus = some 0xA2B7 := by
  intro target restore later
  have hsurvives := saved_baseline_survives.2.2.2.2.2.2 _ _ _ _ [.call (.init 0)] [.call (.init 0)]
    (ownsCcs811_ccs811Bus 0xA2B7) (ownsCcs811_ccs811Bus 0) (.ofBaseline 0xA2B7) 8 _ [] _
    (by rfl) (BaselineRecord.encode_maxLength _) (BaselineRecord.decode_toBlob 0xA2B7 []) (by rfl)
  refine ⟨by decide +kernel, (hsurvives.2 later ?_).2⟩
  simp [NoRestore, later]

end Station

end AirStation
