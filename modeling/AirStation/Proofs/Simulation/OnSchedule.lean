import AirStation.Proofs.Simulation.Ticks
import AirStation.Proofs.Station.Climate

/-!
A simulation on schedule. In a bad second the flaky address is out of reach, and so are the cycles
that begin there; apart from that every tick finds the three sensors where their timetables put
them. `OnSchedule` is what holds before a tick, of the drivers, of the devices and of the climate
that is on its way from one to the other, and a tick preserves it (`OnSchedule.tick`).

The state is described by numbers that depend on the tick alone. Which addresses are silent, what
the CCS811 is owed and how many transactions there have been are functions of the options and the
tick, whatever the weather measures; only the drivers and the devices themselves remain, as a `Crew`
and its `Devices`.
-/

namespace AirStation

namespace Simulation

/-- The addresses that are offline in a second: the flaky one, if there is one, in every second that
leaves six when divided by seven. -/
def silent (options : Options) (second : Nat) : List UInt8 :=
  if second % 7 = 6 then options.flaky.toList else []

/-- A transaction in this tick gets through to the address. It depends on the second in which the
tick lies. -/
def inReach (options : Options) (address : UInt8) (n : Nat) : Bool :=
  !(silent options (n / 100)).contains address

/-- An address comes or goes on a full second only. A sensor whose cycles begin there and end within
a second therefore never loses its device halfway. -/
theorem steady_inReach {τ : Type} {t : Timetable τ} (seconds : Nat)
    (hperiod : t.period = 100 * seconds) (hlast : t.ends t.last < 100) (options : Options)
    (address : UInt8) : t.Steady (inReach options address) := by
  intro cycle elapsed helapsed
  have hsecond : (t.period * cycle + elapsed) / 100 = t.period * cycle / 100 := by
    rw [hperiod, Nat.mul_assoc]
    omega
  rw [inReach, inReach, hsecond]

theorem steady_htu21d (options : Options) (address : UInt8) :
    Htu21d.timetable.Steady (inReach options address) :=
  steady_inReach 1 rfl (by decide) options address

theorem steady_ccs811 (options : Options) (address : UInt8) :
    Ccs811.timetable.Steady (inReach options address) :=
  steady_inReach 1 rfl (by decide) options address

theorem steady_bme68x (options : Options) (address : UInt8) :
    Bme68x.timetable.Steady (inReach options address) :=
  steady_inReach 3 rfl (by decide) options address

/-- A climate has been stored that the CCS811 has not been told before this tick. The debt is paid
when a cycle begins within reach, and a later reading replaces the climate without adding to it. -/
def owed (options : Options) : Nat → Bool
  | 0 => false
  | n + 1 =>
    if Ccs811.timetable.Starts n ∧ inReach options Ccs811.standardAddress n = true then false
    else
      owed options n ||
        decide (Htu21d.timetable.Collects (inReach options Htu21d.address) .humidity n)

/-- A cycle of the CCS811 does not begin when a climate is stored, so what is told is never of the
same tick. -/
theorem not_collects_of_starts (up : Nat → Bool) {n : Nat} (h : Ccs811.timetable.Starts n) :
    ¬ Htu21d.timetable.Collects up .humidity n := by
  rintro ⟨-, -, hcollects⟩
  have hstarts : n % 100 = 0 := h.2
  have hread : n % 100 = 7 := hcollects
  omega

/-- The transactions of a tick, refused ones included, for all three sensors. -/
def visits (options : Options) (n : Nat) : Nat :=
  Htu21d.visits (inReach options Htu21d.address) n +
    Ccs811.visits (inReach options Ccs811.standardAddress) (owed options) n +
    Bme68x.visits (inReach options Bme68x.standardAddress) n

/-- The transactions before a tick. There are 18 before the first one, for the set-up and the
restored baseline. -/
def traffic (options : Options) : Nat → Nat
  | 0 => 18
  | n + 1 => traffic options n + visits options n

/-- The drivers of a station that has all three sensors, as it has by the standard configuration. -/
structure Crew where
  htu21d : Htu21d.Driver
  ccs811 : Ccs811.Driver
  bme68x : Bme68x.Driver

structure Devices where
  htu21d : Htu21d.Model
  ccs811 : Ccs811.Model
  bme68x : Bme68x.Model

/-- The drivers and their devices before a tick. Each driver is scheduled, and what the CCS811 has
pending is the climate that it is owed, of the latest reading of the HTU21D. -/
structure Crew.Scheduled (options : Options) (n : Nat) (crew : Crew) (devices : Devices) :
    Prop where
  htu21d : crew.htu21d.Scheduled (inReach options Htu21d.address) n devices.htu21d
  ccs811 : crew.ccs811.Scheduled (inReach options Ccs811.standardAddress) n devices.ccs811
  bme68x : crew.bme68x.Scheduled (inReach options Bme68x.standardAddress) n devices.bme68x
  ccs811Address : crew.ccs811.address = Ccs811.standardAddress
  bme68xAddress : crew.bme68x.address = Bme68x.standardAddress
  /-- What is pending is the climate that is owed. -/
  pending : crew.ccs811.pendingEnvironment =
    if owed options n then crew.htu21d.latest.map Station.climateOf else none
  known : owed options n = true → crew.htu21d.latest.isSome

/-- The station has these drivers, and has handed over the latest reading of the HTU21D, as its time
says. -/
structure Staffed (station : Station) (crew : Crew) : Prop where
  htu21d : station.htu21d = some crew.htu21d
  ccs811 : station.ccs811 = some crew.ccs811
  bme68x : station.bme68x = some crew.bme68x
  compensation : station.environmentCompensation = true
  handedOver : station.compensatedFrom = crew.htu21d.timer.lastSuccess

/-- What holds before a tick: the clock shows it, the station has its drivers and the bus its
devices, both as the timetables say, and the bus has counted its transactions. -/
structure OnSchedule (options : Options) (n : Nat) (s : Simulation) (crew : Crew)
    (devices : Devices) : Prop where
  options_eq : s.options = options
  now_eq : s.now = tickMillis * n
  staffed : Staffed s.station crew
  furnished : s.bus.Furnished devices.htu21d devices.ccs811 devices.bme68x
  scheduled : crew.Scheduled options n devices
  transactions : s.bus.transactions = traffic options n

/-- On the full second there is a new result to fetch and a new field to measure, since the weather
has changed. -/
structure Devices.Fresh (n : Nat) (devices : Devices) : Prop where
  ccs811 : n % 100 = 0 → devices.ccs811.dataReady = true
  bme68x : n % 100 = 0 → (Bme68x.newest .standard devices.bme68x.staged).isSome

/-- What the weather of a second does to the devices. None of it can disturb a conversion that
runs. -/
def Devices.weather (devices : Devices) (seconds : Float) : Devices where
  htu21d := (devices.htu21d.setTemperature (Weather.temperature seconds).toFloat32).setHumidity
    (Weather.humidity seconds).toFloat32
  ccs811 := devices.ccs811.publish (Weather.eco2 seconds) (Weather.tvoc seconds)
  bme68x := devices.bme68x.stage [Weather.field seconds]

variable {options : Options} {n : Nat} {s : Simulation} {crew : Crew} {devices : Devices}

theorem Crew.Scheduled.weather (h : crew.Scheduled options n devices) (seconds : Float) :
    crew.Scheduled options n (devices.weather seconds) where
  htu21d := ⟨h.htu21d.onTime, h.htu21d.half, h.htu21d.intact⟩
  ccs811 := ⟨h.ccs811.onTime, h.ccs811.healthy, fun stage hphase =>
    ⟨(h.ccs811.shown stage hphase).1, rfl⟩⟩
  bme68x := by
    obtain ⟨part, t, hsupplied, hawaits⟩ := h.bme68x.supplied
    exact ⟨h.bme68x.onTime, part, _, hsupplied.disturbed (.stage [Weather.field seconds]), hawaits⟩
  ccs811Address := h.ccs811Address
  bme68xAddress := h.bme68xAddress
  pending := h.pending
  known := h.known

theorem fresh_weather (devices : Devices) (seconds : Float) (n : Nat) :
    (devices.weather seconds).Fresh n :=
  ⟨fun _ => rfl, fun _ => rfl⟩

theorem furnished_weather {b : SimulatedBus} {devices : Devices}
    (h : b.Furnished devices.htu21d devices.ccs811 devices.bme68x) (seconds : Float) :
    (Weather.apply seconds b).Furnished (devices.weather seconds).htu21d
      (devices.weather seconds).ccs811 (devices.weather seconds).bme68x where
  htu21d := by
    rw [Htu21d.Model.AnswersAt, Weather.apply, show b.htu21d = some devices.htu21d from h.htu21d]
    rfl
  ccs811 := by
    refine ⟨?_, h.ccs811.address_eq, fun haddress => absurd haddress (by decide)⟩
    rw [Weather.apply, h.ccs811.present]
    rfl
  bme68x := by
    refine ⟨?_, h.bme68x.address_eq, fun haddress => absurd haddress (by decide), ?_⟩
    · rw [Weather.apply, h.bme68x.present]
      rfl
    · intro other hother
      rw [Weather.apply, h.ccs811.present] at hother
      obtain rfl := Option.some.inj hother
      exact h.bme68x.ccs811 devices.ccs811 h.ccs811.present
  calm := h.calm

theorem furnished_setOffline {b : SimulatedBus} {htu : Htu21d.Model} {ccs : Ccs811.Model}
    {bme : Bme68x.Model} (h : b.Furnished htu ccs bme) (address : UInt8) (offline : Bool) :
    (b.setOffline address offline).Furnished htu ccs bme where
  htu21d := Htu21d.Model.wired.disturb b htu (.setOffline address offline) h.htu21d
  ccs811 := (Ccs811.Model.wired _).disturb b ccs (.setOffline address offline) h.ccs811
  bme68x := (Bme68x.Model.wired _).disturb b bme (.setOffline address offline) h.bme68x
  calm := by
    unfold SimulatedBus.setOffline
    dsimp only
    split <;> exact h.calm

/-- The flaky device coming or going changes nothing but who can be reached. -/
theorem OnSchedule.setFlaky (h : OnSchedule options n s crew devices) :
    OnSchedule options n s.setFlaky crew devices := by
  unfold Simulation.setFlaky
  split
  · refine ⟨h.options_eq, h.now_eq, h.staffed, furnished_setOffline h.furnished _ _,
      h.scheduled, ?_⟩
    rw [← h.transactions]
    unfold SimulatedBus.setOffline
    dsimp only
    split <;> rfl
  · exact h

/-- After the flaky device has come or gone, the addresses offline are those of the second that the
clock shows. -/
theorem offline_setFlaky (hoptions : s.options = options) {second : Nat}
    (hoffline : s.bus.offline = silent options second) :
    s.setFlaky.bus.offline = silent options (s.now / 1000) := by
  subst hoptions
  unfold Simulation.setFlaky
  unfold silent at hoffline ⊢
  cases hflaky : s.options.flaky with
  | none => simpa [hflaky] using hoffline
  | some address =>
    -- The list of offline addresses holds nothing but the flaky one.
    have hothers : s.bus.offline.filter (· != address) = [] := by
      rw [hoffline, hflaky]
      split <;> simp
    simp only [SimulatedBus.setOffline, hothers]
    by_cases hbad : s.now / 1000 % 7 = 6 <;> simp [hbad, SimulatedBus.maxOffline]

/-- On the full second the weather changes and the flaky device may come or go; in between nothing
happens to the bus. Either way the devices are fresh for the cycles that begin in this tick. -/
theorem OnSchedule.changeWeather (h : OnSchedule options n s crew devices)
    (hoffline : s.bus.offline = silent options ((n - 1) / 100)) :
    s.changeWeather.bus.offline = silent options (n / 100) ∧
      ∃ devices', devices'.Fresh n ∧ OnSchedule options n s.changeWeather crew devices' := by
  have hnow : s.now = 10 * n := h.now_eq
  unfold Simulation.changeWeather
  split
  case isTrue hsecond =>
    have hweather : OnSchedule options n
        { s with weather := s.weather + 1, bus := Weather.apply (s.weather + 1) s.bus } crew
        (devices.weather (s.weather + 1)) :=
      ⟨h.options_eq, h.now_eq, h.staffed, furnished_weather h.furnished _,
        h.scheduled.weather _, h.transactions⟩
    refine ⟨?_, _, fresh_weather devices (s.weather + 1) n, hweather.setFlaky⟩
    have hflaky := offline_setFlaky hweather.options_eq hoffline
    rwa [show s.now / 1000 = n / 100 by omega] at hflaky
  case isFalse hsecond =>
    have hwithin : n % 100 ≠ 0 := by
      unfold weatherMillis at hsecond
      omega
    refine ⟨?_, devices, ⟨fun hfull => absurd hfull hwithin, fun hfull => absurd hfull hwithin⟩, h⟩
    rw [hoffline, show (n - 1) / 100 = n / 100 by omega]

theorem elsewhere {α : Type} {m : SensorM α} {address other : UInt8}
    (hm : m.Does (·.To (· = address))) (hother : address ≠ other) (bus : SimulatedBus) :
    ∀ action ∈ (m.run bus).actions, action.To (· ≠ other) := by
  intro action haction
  have hto := ((BusM.does_iff_always _ m).mp hm).run bus action haction
  apply hto.mono
  rintro _ rfl
  exact hother

section Turns

variable {bus : SimulatedBus} {htu : Htu21d.Model} {ccs : Ccs811.Model} {bme : Bme68x.Model}

theorem reaches_eq (hoffline : bus.offline = silent options (n / 100)) (address : UInt8) :
    bus.reaches address = inReach options address n := by
  rw [SimulatedBus.reaches, hoffline, inReach]

variable (hbus : bus.Furnished htu ccs bme) (hoffline : bus.offline = silent options (n / 100))

include hbus hoffline

/-- The turn of the HTU21D in a poll: it follows its timetable, and leaves the other devices and the
addresses offline as they are. -/
theorem turn_htu21d {d : Htu21d.Driver}
    (hd : d.Scheduled (inReach options Htu21d.address) n htu) :
    let run := (d.update (instant n)).run bus
    (∃ htu', run.bus.Furnished htu' ccs bme ∧
      run.value.Scheduled (inReach options Htu21d.address) (n + 1) htu') ∧
    run.bus.offline = silent options (n / 100) ∧
    Htu21d.timetable.Turn (inReach options Htu21d.address) .htu21d n d.memory run.value.memory
      (Htu21d.visits (inReach options Htu21d.address) n) run.actions := by
  have hsteady := steady_htu21d options Htu21d.address
  have hupdate := (d.update_always (instant n)).run bus
  obtain ⟨hanswers, hafter⟩ := hbus.visit_htu21d (d.update_does (instant n))
  rw [reaches_eq hoffline] at hanswers
  refine ⟨⟨_, hafter, hupdate.scheduled hd hsteady hanswers⟩, ?_, ?_⟩
  · exact (SimulatedBus.run_keeps _ hbus.calm).2.1.trans hoffline
  · exact hd.onTime.turn hsteady (hupdate.step hd hsteady hanswers)

/-- The turn of the CCS811 in a poll. It follows its timetable, and when a cycle begins within reach
it is told what is pending. -/
theorem turn_ccs811 {d : Ccs811.Driver} (haddress : d.address = Ccs811.standardAddress)
    (hd : d.Scheduled (inReach options Ccs811.standardAddress) n ccs)
    (hready : n % 100 = 0 → ccs.dataReady = true) :
    let run := (d.update (instant n)).run bus
    let told := Ccs811.timetable.Starts n ∧ inReach options Ccs811.standardAddress n = true
    (∃ ccs', run.bus.Furnished htu ccs' bme ∧
      run.value.Scheduled (inReach options Ccs811.standardAddress) (n + 1) ccs') ∧
    run.bus.offline = silent options (n / 100) ∧
    Ccs811.timetable.Turn (inReach options Ccs811.standardAddress) .ccs811 n d.memory
      run.value.memory (Ccs811.visits (inReach options Ccs811.standardAddress)
        (fun _ => d.pendingEnvironment.isSome) n) run.actions ∧
    run.value.address = Ccs811.standardAddress ∧
    Station.toldIn (Station.movesOf Ccs811.standardAddress run.actions) =
      (if told then (d.pendingEnvironment.map Vector.toList).toList else []) ∧
    run.value.pendingEnvironment = if told then none else d.pendingEnvironment := by
  intro run told
  have hsteady := steady_ccs811 options Ccs811.standardAddress
  have hupdate : d.Update (instant n) run.actions run.value :=
    (d.update_always (instant n)).run bus
  have hdoes := d.update_does (instant n)
  rw [haddress] at hdoes
  obtain ⟨hanswered, hafter⟩ := hbus.visit_ccs811 hdoes
  have hanswers : Answers (inReach options Ccs811.standardAddress n) d.address ccs
      run.exchanges := by
    rw [haddress, ← reaches_eq hoffline]
    exact hanswered
  have hscheduled := hupdate.scheduled hd hsteady hanswers fun hstarts => hready hstarts.2
  have htells := hupdate.tells hd hsteady hanswers
  rw [haddress] at hscheduled htells
  refine ⟨⟨_, hafter, hscheduled⟩, ?_, ?_, hupdate.address_eq.trans haddress, htells⟩
  · exact (SimulatedBus.run_keeps _ hbus.calm).2.1.trans hoffline
  · exact hd.onTime.turn hsteady (hupdate.step hd hsteady hanswers)

/-- The turn of the BME68x in a poll, which comes last. It follows its timetable and leaves the
other devices as they are. -/
theorem turn_bme68x {d : Bme68x.Driver} (haddress : d.address = Bme68x.standardAddress)
    (hd : d.Scheduled (inReach options Bme68x.standardAddress) n bme)
    (hstaged : n % 100 = 0 → (Bme68x.newest .standard bme.staged).isSome) :
    let run := (d.update (instant n)).run bus
    (∃ bme', run.bus.Furnished htu ccs bme' ∧
      run.value.Scheduled (inReach options Bme68x.standardAddress) (n + 1) bme') ∧
    Bme68x.timetable.Turn (inReach options Bme68x.standardAddress) .bme68x n d.memory
      run.value.memory (Bme68x.visits (inReach options Bme68x.standardAddress) n) run.actions ∧
    run.value.address = Bme68x.standardAddress := by
  intro run
  have hsteady := steady_bme68x options Bme68x.standardAddress
  have hupdate : d.Update (instant n) run.actions run.value :=
    (d.update_always (instant n)).run bus
  have hdoes := d.update_does (instant n)
  rw [haddress] at hdoes
  obtain ⟨hanswered, hafter⟩ := hbus.visit_bme68x hdoes
  have hanswers : Answers (inReach options Bme68x.standardAddress n) d.address bme
      run.exchanges := by
    rw [haddress, ← reaches_eq hoffline]
    exact hanswered
  have hstarts : Bme68x.timetable.Starts n → n % 100 = 0 := fun hstarts => by
    have hcycle : n % 300 = 0 := hstarts.2
    omega
  have hscheduled := hupdate.scheduled hd hsteady hanswers fun h => hstaged (hstarts h)
  rw [haddress] at hscheduled
  exact ⟨⟨_, hafter, hscheduled⟩, hd.onTime.turn hsteady (hupdate.step hd hsteady hanswers),
    hupdate.address_eq.trans haddress⟩

end Turns

/-- What a poll does: one turn for each sensor, in this order, and at the beginning of its cycle the
CCS811 is told the climate that it is owed. -/
inductive Crew.Turned (options : Options) (n : Nat) (crew crew' : Crew) :
    List (Action Event) → Prop where
  | mk {first second third : List (Action Event)}
      (htu21d : Htu21d.timetable.Turn (inReach options Htu21d.address) .htu21d n
        crew.htu21d.memory crew'.htu21d.memory
        (Htu21d.visits (inReach options Htu21d.address) n) first)
      (ccs811 : Ccs811.timetable.Turn (inReach options Ccs811.standardAddress) .ccs811 n
        crew.ccs811.memory crew'.ccs811.memory
        (Ccs811.visits (inReach options Ccs811.standardAddress) (owed options) n) second)
      (bme68x : Bme68x.timetable.Turn (inReach options Bme68x.standardAddress) .bme68x n
        crew.bme68x.memory crew'.bme68x.memory
        (Bme68x.visits (inReach options Bme68x.standardAddress) n) third)
      (told : Station.toldIn
          (Station.movesOf Ccs811.standardAddress (first ++ (second ++ third))) =
        if Ccs811.timetable.Starts n ∧ inReach options Ccs811.standardAddress n = true then
          (crew.ccs811.pendingEnvironment.map Vector.toList).toList
        else []) :
    Turned options n crew crew' (first ++ (second ++ third))

section Poll

variable {station : Station} {bus : SimulatedBus} {htu : Htu21d.Driver}

/-- What the CCS811 has pending once the HTU21D has had its turn: the latest climate, if it was owed
one before or one has just been stored. -/
def pendingAt (options : Options) (n : Nat) (htu : Htu21d.Driver) : Option (Vector UInt8 4) :=
  if owed options n ||
      decide (Htu21d.timetable.Collects (inReach options Htu21d.address) .humidity n) then
    htu.latest.map Station.climateOf
  else none

/-- Between the two turns a reading that has just been stored is handed over; an older one has been
already, and is not handed over again. -/
theorem Staffed.fed (h : Staffed station crew) (hcrew : crew.Scheduled options n devices)
    (hstores : Htu21d.timetable.Stores (inReach options Htu21d.address) n crew.htu21d.memory
      htu.memory) :
    Station.feedEnvironment { station with htu21d := some htu } =
      { station with
        htu21d := some htu
        ccs811 := some { crew.ccs811 with pendingEnvironment := pendingAt options n htu }
        compensatedFrom := htu.timer.lastSuccess } := by
  generalize hmemory : htu.memory = memory at hstores
  cases hstores with
  | stored hcollects reading =>
    have hlatest : htu.latest = some reading := congrArg Memory.latest hmemory
    have hsuccess : htu.timer.lastSuccess = some (instant n) := congrArg Memory.lastSuccess hmemory
    have hfresh : station.compensatedFrom ≠ some (instant n) := by
      rw [h.handedOver]
      intro hsame
      exact Nat.lt_irrefl _ (hcrew.htu21d.onTime.past _ hsame)
    have hpending : pendingAt options n htu = some (Station.climateOf reading) := by
      simp only [pendingAt, hlatest, Option.map_some]
      exact if_pos (by simpa using .inr hcollects)
    rw [Station.feedEnvironment_fresh (s := { station with htu21d := some htu }) h.compensation rfl
      h.ccs811 hlatest hsuccess hfresh, hpending, hsuccess]
    rfl
  | kept hcollects =>
    have hlatest : htu.latest = crew.htu21d.latest := congrArg Memory.latest hmemory
    have hsuccess : htu.timer.lastSuccess = crew.htu21d.timer.lastSuccess :=
      congrArg Memory.lastSuccess hmemory
    have hpending : pendingAt options n htu = crew.ccs811.pendingEnvironment := by
      have hnothing : ¬ Htu21d.timetable.Collects (inReach options Htu21d.address) .humidity n :=
        hcollects
      simp only [pendingAt, hnothing, hlatest, hcrew.pending, decide_false, Bool.or_false]
    have hhanded := h.handedOver.trans hsuccess.symm
    rw [Station.feedEnvironment_known (s := { station with htu21d := some htu }) rfl hhanded,
      hpending, ← hhanded, ← h.ccs811]

theorem pendingAt_of_starts (hcrew : crew.Scheduled options n devices)
    (hstores : Htu21d.timetable.Stores (inReach options Htu21d.address) n crew.htu21d.memory
      htu.memory) (hstarts : Ccs811.timetable.Starts n) :
    pendingAt options n htu = crew.ccs811.pendingEnvironment := by
  have hnothing := not_collects_of_starts (inReach options Htu21d.address) hstarts
  generalize hmemory : htu.memory = memory at hstores
  cases hstores with
  | stored hcollects => exact absurd hcollects hnothing
  | kept =>
    have hlatest : htu.latest = crew.htu21d.latest := congrArg Memory.latest hmemory
    simp only [pendingAt, hnothing, hlatest, hcrew.pending, decide_false, Bool.or_false]

theorem Crew.Scheduled.pending_isSome (hcrew : crew.Scheduled options n devices) :
    crew.ccs811.pendingEnvironment.isSome = owed options n := by
  rw [hcrew.pending]
  cases howed : owed options n with
  | true => simpa using hcrew.known howed
  | false => rfl

/-- A climate of the same tick makes no difference to the transactions, because no cycle of the
CCS811 begins then. -/
theorem visits_pendingAt (hcrew : crew.Scheduled options n devices)
    (hstores : Htu21d.timetable.Stores (inReach options Htu21d.address) n crew.htu21d.memory
      htu.memory) (up : Nat → Bool) :
    Ccs811.visits up (fun _ => (pendingAt options n htu).isSome) n =
      Ccs811.visits up (owed options) n := by
  unfold Ccs811.visits
  by_cases hstarts : Ccs811.timetable.Starts n
  · rw [if_pos hstarts, if_pos hstarts, pendingAt_of_starts hcrew hstores hstarts,
      hcrew.pending_isSome]
  · rw [if_neg hstarts, if_neg hstarts]

/-- What is owed after the tick has been stored in it or before, so the HTU21D has a reading. -/
theorem known_succ (hcrew : crew.Scheduled options n devices)
    (hstores : Htu21d.timetable.Stores (inReach options Htu21d.address) n crew.htu21d.memory
      htu.memory) (howed : owed options (n + 1) = true) : htu.latest.isSome := by
  apply hstores.isSome
  rw [owed] at howed
  split at howed
  · nomatch howed
  · rcases (Bool.or_eq_true _ _).mp howed with hbefore | hcollects
    · exact .inr (hcrew.known hbefore)
    · exact .inl (of_decide_eq_true hcollects)

theorem pending_succ (options : Options) (n : Nat) (htu : Htu21d.Driver) :
    (if Ccs811.timetable.Starts n ∧ inReach options Ccs811.standardAddress n = true then none
      else pendingAt options n htu) =
    if owed options (n + 1) then htu.latest.map Station.climateOf else none := by
  rw [owed, pendingAt]
  by_cases htold : Ccs811.timetable.Starts n ∧ inReach options Ccs811.standardAddress n = true
  · simp [htold]
  · rw [if_neg htold, if_neg htold]

/-- One poll of the station takes a scheduled crew to the next tick, with the turns of the three
sensors one after another. -/
theorem Crew.Scheduled.poll (hcrew : crew.Scheduled options n devices) (hfresh : devices.Fresh n)
    (hstaffed : Staffed station crew)
    (hbus : bus.Furnished devices.htu21d devices.ccs811 devices.bme68x)
    (hoffline : bus.offline = silent options (n / 100)) :
    let run := (station.poll (instant n)).run bus
    ∃ crew' devices', Staffed run.value crew' ∧
      run.bus.Furnished devices'.htu21d devices'.ccs811 devices'.bme68x ∧
      crew'.Scheduled options (n + 1) devices' ∧ crew.Turned options n crew' run.actions := by
  let htuRun := (crew.htu21d.update (instant n)).run bus
  obtain ⟨⟨htu, hbus, hhtu⟩, hoffline, hhtuTurn⟩ := turn_htu21d hbus hoffline hcrew.htu21d
  -- The CCS811 has the new climate by now.
  let ccs := { crew.ccs811 with pendingEnvironment := pendingAt options n htuRun.value }
  have hccs : ccs.Scheduled (inReach options Ccs811.standardAddress) n devices.ccs811 :=
    ⟨hcrew.ccs811.onTime, hcrew.ccs811.healthy, hcrew.ccs811.shown⟩
  let ccsRun := (ccs.update (instant n)).run htuRun.bus
  obtain ⟨⟨ccs', hbus, hccs⟩, hoffline, hccsTurn, hccsAddress, htold, hpending⟩ :=
    turn_ccs811 (d := ccs) hbus hoffline hcrew.ccs811Address hccs hfresh.ccs811
  obtain ⟨⟨bme, hbus, hbme⟩, hbmeTurn, hbmeAddress⟩ :=
    turn_bme68x hbus hoffline hcrew.bme68xAddress hcrew.bme68x hfresh.bme68x
  let bmeRun := (crew.bme68x.update (instant n)).run ccsRun.bus
  have hrun := Station.run_poll hstaffed.htu21d (hstaffed.fed hcrew hhtuTurn.stores) rfl
    hstaffed.bme68x
  have hvisits := visits_pendingAt hcrew hhtuTurn.stores (inReach options Ccs811.standardAddress)
  rw [hvisits] at hccsTurn
  -- The other two address other devices.
  have hhtuTold : Station.toldIn (Station.movesOf Ccs811.standardAddress htuRun.actions) = [] :=
    Station.toldIn_elsewhere (elsewhere (crew.htu21d.update_does _) (by decide) bus)
  have hbmeTold : Station.toldIn (Station.movesOf Ccs811.standardAddress bmeRun.actions) = [] :=
    Station.toldIn_elsewhere (elsewhere (crew.bme68x.update_does _)
      (by rw [hcrew.bme68xAddress]; decide) ccsRun.bus)
  have htoldAll : Station.toldIn (Station.movesOf Ccs811.standardAddress
      (htuRun.actions ++ (ccsRun.actions ++ bmeRun.actions))) =
        Station.toldIn (Station.movesOf Ccs811.standardAddress ccsRun.actions) := by
    rw [Station.movesOf_append, Station.movesOf_append, Station.toldIn_append,
      Station.toldIn_append, hhtuTold, hbmeTold, List.nil_append, List.append_nil]
  rw [hrun]
  refine ⟨⟨htuRun.value, ccsRun.value, bmeRun.value⟩, ⟨htu, ccs', bme⟩,
    ⟨rfl, rfl, rfl, hstaffed.compensation, rfl⟩, hbus, ?_, ?_⟩
  · exact ⟨hhtu, hccs, hbme, hccsAddress, hbmeAddress,
      hpending.trans (pending_succ options n htuRun.value), known_succ hcrew hhtuTurn.stores⟩
  · refine .mk hhtuTurn hccsTurn hbmeTurn ?_
    refine (htoldAll.trans htold).trans ?_
    split
    · rename_i hstarts
      have hsame : ccs.pendingEnvironment = crew.ccs811.pendingEnvironment :=
        pendingAt_of_starts hcrew hhtuTurn.stores hstarts.1
      rw [hsame]
    · rfl

end Poll

theorem Crew.Turned.visits_eq {crew' : Crew} {actions : List (Action Event)}
    (h : crew.Turned options n crew' actions) :
    (actions.filterMap Action.exchange?).length = visits options n := by
  cases h with
  | mk htu21d ccs811 bme68x told =>
    simp only [List.filterMap_append, List.length_append, htu21d.visits_eq, ccs811.visits_eq,
      bme68x.visits_eq, visits, Nat.add_assoc]

theorem Crew.Turned.stores {crew' : Crew} {actions : List (Action Event)}
    (h : crew.Turned options n crew' actions) :
    Htu21d.timetable.Stores (inReach options Htu21d.address) n crew.htu21d.memory
        crew'.htu21d.memory ∧
      Ccs811.timetable.Stores (inReach options Ccs811.standardAddress) n crew.ccs811.memory
        crew'.ccs811.memory ∧
      Bme68x.timetable.Stores (inReach options Bme68x.standardAddress) n crew.bme68x.memory
        crew'.bme68x.memory := by
  cases h with
  | mk htu21d ccs811 bme68x told => exact ⟨htu21d.stores, ccs811.stores, bme68x.stores⟩

/-- A tick takes a simulation on schedule to the next one, and the poll in it consists of the turns
that the timetables have for this tick. -/
theorem OnSchedule.tick (h : OnSchedule options n s crew devices)
    (hoffline : s.bus.offline = silent options ((n - 1) / 100)) :
    ∃ crew' devices', OnSchedule options (n + 1) s.tick.1 crew' devices' ∧
      s.tick.1.bus.offline = silent options (n / 100) ∧
      crew.Turned options n crew' s.pollRun.actions := by
  obtain ⟨hoffline, devices₁, hfresh, hready⟩ := h.changeWeather hoffline
  have hnow : s.changeWeather.now = s.now := s.now_changeWeather
  obtain ⟨crew', devices', hstaffed, hbus, hscheduled, hturned⟩ :=
    hready.scheduled.poll hfresh hready.staffed hready.furnished hoffline
  have hrun : s.pollRun = (s.changeWeather.station.poll (instant n)).run s.changeWeather.bus := by
    rw [pollRun, h.now_eq]
    rfl
  rw [← hrun] at hstaffed hbus hturned
  obtain ⟨-, hsilent, htransactions⟩ :=
    SimulatedBus.run_keeps (s.changeWeather.station.poll (.ofMillis s.now)) hready.furnished.calm
  rw [tick_eq]
  refine ⟨crew', devices', ⟨hready.options_eq, ?_, hstaffed, hbus, hscheduled, ?_⟩,
    hsilent.trans hoffline, hturned⟩
  · show s.now + tickMillis = tickMillis * (n + 1)
    rw [h.now_eq]
    rfl
  · refine htransactions.trans ?_
    rw [hready.transactions, traffic]
    exact congrArg _ hturned.visits_eq

/-- From a start on schedule every later tick is on schedule, by induction on the number of
ticks. -/
theorem OnSchedule.after (h : OnSchedule options 0 s crew devices)
    (hoffline : s.bus.offline = silent options 0) (n : Nat) :
    ∃ crew' devices', OnSchedule options n (s.after n) crew' devices' ∧
      (s.after n).bus.offline = silent options ((n - 1) / 100) := by
  induction n with
  | zero => exact ⟨crew, devices, h, hoffline⟩
  | succ n ih =>
    obtain ⟨crew', devices', hbefore, hsilent⟩ := ih
    obtain ⟨crew'', devices'', hafter, hsilent, -⟩ := hbefore.tick hsilent
    exact ⟨crew'', devices'', hafter, hsilent⟩

end Simulation

end AirStation
