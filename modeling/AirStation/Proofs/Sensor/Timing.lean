import AirStation.Proofs.Sensor.Drivers
import AirStation.Proofs.Sensor.Punctual
import AirStation.Simulated.Bus

/-!
The three drivers keep time. Each call on a driver is a beat of its rhythm, which the lists of
outcomes show case by case, and `drivers_keep_time` states the contract for the three drivers as
they are created.

For each driver three things are shown: an update at a closed gate does nothing, the transactions of
a set-up are neither triggers nor reads of data, and every outcome of a call is one of the beats.
The contract itself is derived elsewhere, once for all drivers.
-/

namespace AirStation

/-- What is refused starts no conversion, and if it would not have read data, it does not count at
all. -/
theorem Polled.not_counts_failed {δ κ τ : Type} {p : Polled δ κ τ} {transfer : Transfer}
    (hunread : ¬ p.reads transfer) (address : UInt8) (fault : Fault) :
    ¬ p.Counts (.failed address transfer fault) := by
  rintro (hread | ⟨stage, hacknowledged, -⟩)
  · exact hunread hread
  · nomatch hacknowledged

namespace Htu21d.Driver

/-- The gate of the rhythm is what the HTU21D itself asks before it does anything. -/
theorem isOpen_rhythm (d : Driver) (now : Micros) :
    (polled.rhythm d).isOpen now = d.due now := by
  unfold due
  cases hphase : d.phase <;>
    simp [polled, Rhythm.isOpen, hphase, PollTimer.intervalElapsed, PollTimer.waited]

/-- At a closed gate an update of the HTU21D is nothing. -/
theorem update_of_not_due {d : Driver} {now : Micros} (h : d.due now = false) :
    d.update now = pure d := by
  unfold update
  cases hphase : d.phase <;> simp_all [due]

theorem triggers_command (stage : Stage) :
    polled.Triggers stage (.wrote address [stage.command]) :=
  ⟨rfl, rfl⟩

theorem not_counts_refused (bytes : List UInt8) (fault : Fault) :
    ¬ polled.Counts (.failed address (.write bytes) fault) := by
  apply Polled.not_counts_failed
  rintro ⟨_, hread⟩
  nomatch hread

theorem not_counts_softReset : ¬ polled.Counts (.wrote address [softReset]) := by
  rintro (⟨count, hread⟩ | ⟨stage, -, htriggers⟩)
  · nomatch hread
  · cases stage <;> nomatch htriggers

/-- A set-up of the HTU21D passes or succeeds. Its only write is no trigger. -/
theorem Init.beat {s : Attended Driver} {now : Micros} {actions : List (Action Event)}
    {answer : Except SensorError Unit} {d' : Driver}
    (h : s.driver.Init now actions (answer, d')) :
    polled.Beat s (.init now) actions ⟨d', some answer⟩ := by
  cases h with
  | refused fault =>
    refine .passed (Polled.not_restarts (.inl rfl) (.inr (by simp))) ?_ (.inl rfl)
    simp [not_counts_refused]
  | ready =>
    refine .succeeded ⟨rfl, rfl⟩ ?_ rfl
    simp [not_counts_softReset]

/-- Every outcome of an update is a beat; the halfway outcomes read the temperature and trigger the
humidity. -/
theorem Update.beat {s : Attended Driver} {now : Micros} {actions : List (Action Event)}
    {d' : Driver} (h : s.driver.Update now actions d') :
    polled.Beat s (.update now) actions ⟨d', s.answer⟩ := by
  cases h with
  | rested => exact .passed (Polled.not_restarts (.inr rfl) (.inl rfl)) (by simp) (.inl rfl)
  | started hphase hdue =>
    refine .started [] ⟨rfl, hphase, by simp [Episode.exchanges]⟩ ?_ rfl (by simp)
      (triggers_command .temperature) rfl
    rwa [isOpen_rhythm]
  | startRefused hphase hdue fault =>
    refine .refused ⟨rfl, hphase, by simp [Episode.exchanges]⟩ ?_ ?_ rfl
    · rwa [isOpen_rhythm]
    · simp [not_counts_refused]
  | unread stage hphase hdue | spoilt stage hphase hdue | measured hphase hdue
  | dropped hphase hdue =>
    refine .collected rfl hphase ?_ rfl (by simp) rfl
    rwa [isOpen_rhythm]
  | halfway hphase hdue =>
    refine .advanced rfl hphase ?_ rfl (triggers_command .humidity) rfl
    rwa [isOpen_rhythm]
  | halfwayRefused hphase hdue =>
    refine .collected rfl hphase ?_ rfl ?_ rfl
    · rwa [isOpen_rhythm]
    · simp [not_counts_refused]

theorem polled_lawful : polled.Lawful where
  apart c now hupdated := by
    cases c with
    | init => nomatch hupdated
    | update => rfl
  distinct stage transfer htriggers := by
    rintro ⟨count, hread⟩
    rw [hread] at htriggers
    nomatch htriggers
  resting d c now hupdated hclosed := by
    cases c with
    | init => nomatch hupdated
    | update time =>
      obtain rfl : time = now := Option.some.inj hupdated
      rw [isOpen_rhythm] at hclosed
      exact update_of_not_due hclosed
  beat s c := by
    apply (attend_outcomes s c).mono
    intro actions s' h
    cases h with
    | init hinit => exact hinit.beat
    | update hupdate => exact hupdate.beat

end Htu21d.Driver

namespace Ccs811.Driver

theorem isOpen_rhythm (d : Driver) (now : Micros) :
    (polled.rhythm d).isOpen now = d.due now := by
  unfold due
  cases hphase : d.phase <;>
    simp [polled, Rhythm.isOpen, hphase, PollTimer.intervalElapsed, PollTimer.waited]

theorem update_of_not_due {d : Driver} {now : Micros} (h : d.due now = false) :
    d.update now = pure d := by
  unfold update
  cases hphase : d.phase <;> simp_all [due]

/-- Asking for the baseline gives up a conversion and leaves both instants as they are. -/
theorem rhythm_interrupted {d : Driver} (hphase : d.phase ≠ .idle) :
    polled.rhythm d.interrupted =
      { polled.rhythm d with phase := .waitingForInterval } := by
  simp [polled, phase_interrupted hphase]

theorem triggers_select (address : UInt8) :
    polled.Triggers .algorithmResult (.wrote address [Register.result]) :=
  ⟨rfl, rfl⟩

theorem not_counts_fetched (address register : UInt8) {count : Nat}
    (bytes : Vector UInt8 count) : ¬ polled.Counts (.fetched address register bytes) := by
  rintro (⟨_, hread⟩ | ⟨_, -, htriggers⟩)
  · nomatch hread
  · nomatch htriggers

theorem not_counts_wrote {register : UInt8} (hregister : register ≠ Register.result)
    (address : UInt8) (payload : List UInt8) :
    ¬ polled.Counts (.wrote address (register :: payload)) := by
  rintro (⟨_, hread⟩ | ⟨_, -, htriggers⟩)
  · nomatch hread
  · exact hregister (List.cons.inj (Transfer.write.inj htriggers)).1

theorem not_counts_refused (address : UInt8) (bytes : List UInt8) (fault : Fault) :
    ¬ polled.Counts (.failed address (.write bytes) fault) := by
  apply Polled.not_counts_failed
  rintro ⟨_, hread⟩
  nomatch hread

theorem not_counts_unfetched (address : UInt8) (bytes : List UInt8) (count : Nat)
    (fault : Fault) : ¬ polled.Counts (.failed address (.writeRead bytes count) fault) := by
  apply Polled.not_counts_failed
  rintro ⟨_, hread⟩
  nomatch hread

/-- A set-up of the CCS811 passes or succeeds. None of its transactions selects the result or reads
without a register. -/
theorem Init.beat {s : Attended Driver} {now : Micros} {actions : List (Action Event)}
    {answer : Except SensorError Unit} {d' : Driver}
    (h : s.driver.Init now actions (answer, d')) :
    polled.Beat s (.init now) actions ⟨d', some answer⟩ := by
  have hsilent : ∀ x ∈ actions.filterMap Action.exchange?, ¬ polled.Counts x := by
    cases h <;> simp (disch := decide) [not_counts_fetched, not_counts_unfetched,
      not_counts_wrote, not_counts_refused]
  cases h with
  | unidentified | mistaken | unstarted | unset =>
    exact .passed (Polled.not_restarts (.inl rfl) (.inr (by simp))) hsilent (.inl rfl)
  | ready => exact .succeeded ⟨rfl, rfl⟩ hsilent rfl

/-- Every outcome of an update is a beat. A climate that is told before the selection does not
count. -/
theorem Update.beat {s : Attended Driver} {now : Micros} {actions : List (Action Event)}
    {d' : Driver} (h : s.driver.Update now actions d') :
    polled.Beat s (.update now) actions ⟨d', s.answer⟩ := by
  cases h with
  | rested => exact .passed (Polled.not_restarts (.inr rfl) (.inl rfl)) (by simp) (.inl rfl)
  | selected hphase hdue =>
    refine .started [] ⟨rfl, hphase, by simp [Episode.exchanges]⟩ ?_ rfl (by simp)
      (triggers_select _) rfl
    rwa [isOpen_rhythm]
  | told hphase hdue environment =>
    refine .started [.wrote s.driver.address (Register.environment :: environment.toList)]
      ⟨rfl, hphase, by simp [Episode.exchanges]⟩ ?_ rfl ?_ (triggers_select _) rfl
    · rwa [isOpen_rhythm]
    · simp (disch := decide) [not_counts_wrote]
  | selectRefused hphase hdue | toldSelectRefused hphase hdue | untold hphase hdue =>
    refine .refused ⟨rfl, hphase, by simp [Episode.exchanges]⟩ ?_ ?_ rfl
    · rwa [isOpen_rhythm]
    · simp (disch := decide) [not_counts_wrote, not_counts_refused]
  | unread stage hphase hdue | erroneous stage hphase hdue | nothingNew stage hphase hdue
  | measured stage hphase hdue =>
    refine .collected rfl hphase ?_ rfl (by simp) rfl
    rwa [isOpen_rhythm]

theorem ReadBaseline.beat {s : Attended Driver} {actions : List (Action Event)}
    {result : Except SensorError UInt16} {d' : Driver}
    (h : s.driver.ReadBaseline actions (result, d')) :
    polled.Beat s .readBaseline actions ⟨d', s.answer⟩ := by
  refine .passed (Polled.not_restarts (.inl rfl) (.inl rfl)) ?_ ?_
  · cases h <;> simp [not_counts_fetched, not_counts_unfetched]
  · cases h with
    | idle => exact .inl rfl
    | refused hphase | read hphase => exact .inr ⟨hphase, rhythm_interrupted hphase⟩

theorem WriteBaseline.beat {s : Attended Driver} {baseline : UInt16}
    {actions : List (Action Event)} {result : Except SensorError Unit} {d' : Driver}
    (h : s.driver.WriteBaseline baseline actions (result, d')) :
    polled.Beat s (.writeBaseline baseline) actions ⟨d', s.answer⟩ := by
  refine .passed (Polled.not_restarts (.inl rfl) (.inl rfl)) ?_ ?_
  · cases h <;> simp (disch := decide) [not_counts_wrote, not_counts_refused]
  · cases h with
    | idle => exact .inl rfl
    | refused hphase | written hphase => exact .inr ⟨hphase, rhythm_interrupted hphase⟩

theorem polled_lawful : polled.Lawful where
  apart c now hupdated := by
    cases c with
    | update => rfl
    | init | setEnvironment | readBaseline | writeBaseline => nomatch hupdated
  distinct stage transfer htriggers := by
    rintro ⟨count, hread⟩
    rw [hread] at htriggers
    nomatch htriggers
  resting d c now hupdated hclosed := by
    cases c with
    | update time =>
      obtain rfl : time = now := Option.some.inj hupdated
      rw [isOpen_rhythm] at hclosed
      exact update_of_not_due hclosed
    | init | setEnvironment | readBaseline | writeBaseline => nomatch hupdated
  beat s c := by
    apply (attend_outcomes s c).mono
    intro actions s' h
    cases h with
    | init hinit => exact hinit.beat
    | update hupdate => exact hupdate.beat
    | setEnvironment =>
      exact .passed (Polled.not_restarts (.inl rfl) (.inl rfl)) (by simp) (.inl rfl)
    | readBaseline hread => exact hread.beat
    | writeBaseline hwritten => exact hwritten.beat

end Ccs811.Driver

namespace Bme68x

theorem SetsUp.not_counts {address : UInt8} {x : Exchange}
    (h : SetsUp address (.exchanged x)) : ¬ Driver.polled.Counts x := by
  obtain ⟨-, hpreparing⟩ := h
  rintro (⟨count, hread⟩ | ⟨_, -, value, hwrite, hawake⟩)
  · rw [hread] at hpreparing
    exact hpreparing rfl
  · rw [hwrite] at hpreparing
    obtain ⟨register, written, hbytes, -, hasleep⟩ := hpreparing
    obtain ⟨rfl, hrest⟩ := List.cons.inj hbytes
    obtain ⟨rfl, -⟩ := List.cons.inj hrest
    exact hawake (hasleep rfl)

namespace Driver

theorem isOpen_rhythm (d : Driver) (now : Micros) :
    (polled.rhythm d).isOpen now = d.due now := by
  unfold due
  cases hphase : d.phase <;>
    simp [polled, Rhythm.isOpen, hphase, PollTimer.intervalElapsed, PollTimer.waited]

theorem update_of_not_due {d : Driver} {now : Micros} (h : d.due now = false) :
    d.update now = pure d := by
  unfold update
  cases hphase : d.phase <;> simp_all [due]

theorem not_counts_refused (address : UInt8) (bytes : List UInt8) (fault : Fault) :
    ¬ polled.Counts (.failed address (.write bytes) fault) := by
  apply Polled.not_counts_failed
  rintro ⟨_, hread⟩
  nomatch hread

theorem triggers_start (d : Driver) :
    polled.Triggers .measurement (.wrote d.address [Register.measurementControl,
      d.settings.measurementControl d.settings.mode.bits]) :=
  ⟨rfl, _, rfl, measuring_mode d.settings⟩

/-- A set-up of the BME68x passes or succeeds, whichever of its many transactions fails. -/
theorem Init.beat {s : Attended Driver} {now : Micros} {actions : List (Action Event)}
    {answer : Except SensorError Unit} {d' : Driver} (h : s.driver.Init now (answer, d'))
    (hactions : ∀ action ∈ actions, SetsUp s.driver.address action) :
    polled.Beat s (.init now) actions ⟨d', some answer⟩ := by
  have hsilent : ∀ x ∈ actions.filterMap Action.exchange?, ¬ polled.Counts x := by
    intro x hx
    exact (hactions _ (Action.mem_exchanges.mp hx)).not_counts
  cases h with
  | failed =>
    exact .passed (Polled.not_restarts (.inl rfl) (.inr (by simp))) hsilent (.inl rfl)
  | ready => exact .succeeded ⟨rfl, rfl⟩ hsilent rfl

/-- Every outcome of an update is a beat, a burst without an acceptable field included. -/
theorem Update.beat {s : Attended Driver} {now : Micros} {actions : List (Action Event)}
    {d' : Driver} (h : s.driver.Update now actions d') :
    polled.Beat s (.update now) actions ⟨d', s.answer⟩ := by
  cases h with
  | rested => exact .passed (Polled.not_restarts (.inr rfl) (.inl rfl)) (by simp) (.inl rfl)
  | started hphase hdue =>
    refine .started [] ⟨rfl, hphase, by simp [Episode.exchanges]⟩ ?_ rfl (by simp)
      (triggers_start _) rfl
    rwa [isOpen_rhythm]
  | startRefused hphase hdue fault =>
    refine .refused ⟨rfl, hphase, by simp [Episode.exchanges]⟩ ?_ ?_ rfl
    · rwa [isOpen_rhythm]
    · simp [not_counts_refused]
  | unread stage hphase hdue | nothingNew stage hphase hdue | measured stage hphase hdue =>
    refine .collected rfl hphase ?_ rfl (by simp) rfl
    rwa [isOpen_rhythm]

theorem polled_lawful : polled.Lawful where
  apart c now hupdated := by
    cases c with
    | init => nomatch hupdated
    | update => rfl
  distinct stage transfer htriggers := by
    rintro ⟨count, hread⟩
    obtain ⟨value, hwrite, -⟩ := htriggers
    rw [hread] at hwrite
    nomatch hwrite
  resting d c now hupdated hclosed := by
    cases c with
    | init => nomatch hupdated
    | update time =>
      obtain rfl : time = now := Option.some.inj hupdated
      rw [isOpen_rhythm] at hclosed
      exact update_of_not_due hclosed
  beat s c := by
    apply (attend_outcomes s c).mono
    intro actions s' h
    cases h with
    | init hinit hactions => exact hinit.beat hactions
    | update hupdate => exact hupdate.beat

end Driver

end Bme68x

/-- Over every bus, every order of calls and every clock, each driver keeps its interval and its
conversion times, which are 50 ms and 16 ms for the HTU21D, none for the CCS811 and computed from
the settings for the BME68x. -/
theorem drivers_keep_time {β : Type} [Bus β] (bus : β) :
    (∀ interval, Htu21d.Driver.polled.Punctual (.ofInterval interval) bus) ∧
    (∀ address interval mode,
      Ccs811.Driver.polled.Punctual (.create address interval mode) bus) ∧
    (∀ address interval settings,
      Bme68x.Driver.polled.Punctual (.create address interval settings) bus) ∧
    Htu21d.Stage.temperature.conversionTime = .ofMillis 50 ∧
    Htu21d.Stage.humidity.conversionTime = .ofMillis 16 ∧ Ccs811.resultWait = 0 := by
  refine ⟨?_, ?_, ?_, rfl, rfl, rfl⟩
  · intro interval
    exact Htu21d.Driver.polled_lawful.punctual rfl bus
  · intro address interval mode
    exact Ccs811.Driver.polled_lawful.punctual rfl bus
  · intro address interval settings
    exact Bme68x.Driver.polled_lawful.punctual rfl bus

/-- An HTU21D that starts its first cycle a second after its set-up, and reads it fifty milliseconds
later, both at the first moment that is allowed. -/
theorem drivers_keep_time_measuring :
    let bus : SimulatedBus :=
      { SimulatedBus.empty with htu21d := some ⟨0x6000, 0x8002, none, false, 0⟩ }
    let p := Htu21d.Driver.polled
    let started := p.history (.ofInterval 1000000) bus [.init 0]
    let cycle := started.episode p.attend (.update 1000000)
    let triggered := p.history (.ofInterval 1000000) bus [.init 0, .update 1000000]
    let reading := triggered.episode p.attend (.update 1050000)
    (p.StartsCycle cycle 1000000 ∧ ∃ restart time,
      LastOf (fun e => ∃ time, p.Restarts e time) started.past restart ∧
        p.Restarts restart time ∧ 1000000 ≤ 1000000 - time) ∧
    ∃ read rest, reading.exchanges = read :: rest ∧ p.reads read.transfer ∧
      p.Timely (p.rhythm (.ofInterval 1000000)) (Polled.moments triggered.past)
        (reading, read) := by
  intro bus p started cycle triggered reading
  have hpunctual := (drivers_keep_time bus).1 1000000
  have hcycle : cycle.exchanges.map (·.transfer) = [.write [0xF3]] := by decide +kernel
  have hstarts : p.StartsCycle cycle 1000000 := by
    refine ⟨rfl, by decide +kernel, ?_⟩
    intro hnone
    simp [hnone] at hcycle
  have hreading : reading.exchanges.map (·.transfer) = [.read 3, .write [0xF5]] := by
    decide +kernel
  obtain ⟨read, rest, hsplit, hread, -⟩ := List.map_eq_cons_iff.mp hreading
  refine ⟨⟨hstarts, ?_⟩, read, rest, hsplit, ⟨3, hread⟩, ?_⟩
  · exact hpunctual.paced [.init 0, .update 1000000] started.past cycle [] rfl 1000000 hstarts
  · have htimely := hpunctual.timely [.init 0, .update 1000000, .update 1050000]
    apply htimely (Polled.moments triggered.past) (reading, read) (rest.map (reading, ·))
    show Polled.moments (triggered.past ++ [reading]) = _
    rw [Polled.moments_concat, hsplit, List.map_cons]

end AirStation
