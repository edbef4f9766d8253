import AirStation.Proofs.Sensor.Memory
import AirStation.Proofs.Sensor.Polled
import AirStation.Simulation

/-!
Timetables. On a clock that advances in ticks a sensor begins a cycle every so many ticks, and reads
the result of each conversion so many ticks into the cycle. `Place` says where in its timetable a
sensor stands before a tick, and `Step` lists what the update in that tick may do. A device that is
out of reach when a cycle begins loses this cycle, and the sensor is in its place for the next one.

Nothing here is about one of the three sensors. A timetable is a table of numbers, and a driver
follows it when the gates of its rhythm open at these numbers (`Timetable.Fits`) and its device
neither comes nor goes in the middle of a cycle (`Timetable.Steady`). Both are shown for the three
drivers where their timetables are given.
-/

namespace AirStation

namespace Simulation

/-- The time of a tick on the clock of the drivers. Differences and comparisons of such times are
those of the ticks themselves. -/
def instant (tick : Nat) : Micros :=
  .ofMillis (tickMillis * tick)

theorem instant_le_instant {first second : Nat} :
    instant first ≤ instant second ↔ first ≤ second := by
  show tickMillis * first * 1000 ≤ tickMillis * second * 1000 ↔ first ≤ second
  unfold tickMillis
  omega

theorem instant_sub_instant (first second : Nat) :
    instant first - instant second = instant (first - second) := by
  show tickMillis * first * 1000 - tickMillis * second * 1000 =
    tickMillis * (first - second) * 1000
  unfold tickMillis
  omega

theorem instant_lt_succ (tick : Nat) : instant tick < instant (tick + 1) := by
  show tickMillis * tick * 1000 < tickMillis * (tick + 1) * 1000
  unfold tickMillis
  omega

end Simulation

open Simulation (instant instant_le_instant instant_sub_instant instant_lt_succ)

/-- The ticks of a cycle, counted from its beginning. No conversion ends while another one runs, and
the last one ends before the period is over. -/
structure Timetable (τ : Type) where
  period : Nat
  /-- When a conversion is triggered. -/
  begins : τ → Nat
  /-- When its result is read. -/
  ends : τ → Nat
  first : τ
  last : τ
  begins_first : begins first = 0
  begins_lt_ends : ∀ stage, begins stage < ends stage
  ends_le_last : ∀ stage, ends stage ≤ ends last
  last_lt_period : ends last < period
  /-- No other conversion ends while one runs. -/
  apart : ∀ stage other, begins stage < ends other → ends other ≤ ends stage → other = stage

namespace Timetable

variable {τ ρ : Type} (t : Timetable τ)

/-- A cycle begins in this tick. The first one has to wait for its interval like every other, so
there is none in tick zero. -/
def Starts (n : Nat) : Prop :=
  0 < n ∧ n % t.period = 0

/-- In this tick the result of the conversion is read, in a cycle that began within reach. There is
nothing to read before the first period is over. -/
def Collects (up : Nat → Bool) (stage : τ) (n : Nat) : Prop :=
  t.period ≤ n ∧ up n = true ∧ n % t.period = t.ends stage

instance (n : Nat) : Decidable (t.Starts n) :=
  inferInstanceAs (Decidable (_ ∧ _))

instance (up : Nat → Bool) (stage : τ) (n : Nat) : Decidable (t.Collects up stage n) :=
  inferInstanceAs (Decidable (_ ∧ _))

/-- The device does not come or go in the course of a cycle: it can be reached until the last result
is read exactly if it could be reached in the beginning. -/
def Steady (up : Nat → Bool) : Prop :=
  ∀ cycle elapsed, elapsed ≤ t.ends t.last →
    up (t.period * cycle + elapsed) = up (t.period * cycle)

/-- The gates of the sensor open at the ticks of the timetable. A conversion may be over between two
ticks; what counts is the first tick in which the driver finds that it is. -/
structure Fits (r : Rhythm τ) : Prop where
  interval : r.interval = instant t.period
  gate : ∀ stage elapsed, t.begins stage < elapsed → elapsed ≤ t.ends stage →
    (r.conversionTime stage ≤ instant (elapsed - t.begins stage) ↔ elapsed = t.ends stage)

/-- Where the sensor stands before a tick, so many ticks into a cycle. It waits for the next cycle,
because this one was lost or has brought its reading, or it waits for a conversion. Before the first
cycle it counts from its set-up. -/
inductive Place (up : Nat → Bool) (n : Nat) (r : Rhythm τ) : Prop where
  | waiting (cycle elapsed : Nat) (htick : n = t.period * cycle + elapsed)
      (hphase : r.phase = .waitingForInterval)
      (hstarted : r.cycleStarted = instant (t.period * cycle)) (hwithin : elapsed ≤ t.period)
      (hover : cycle = 0 ∨
        0 < elapsed ∧ (up (t.period * cycle) = false ∨ t.ends t.last < elapsed))
  | converting (stage : τ) (cycle elapsed : Nat) (htick : n = t.period * cycle + elapsed)
      (hphase : r.phase = .waitingForConversion stage)
      (hstarted : r.cycleStarted = instant (t.period * cycle))
      (hentered : r.stateEntered = instant (t.period * cycle + t.begins stage))
      (hcycle : 0 < cycle) (hup : up (t.period * cycle) = true)
      (hbegun : t.begins stage < elapsed) (hrunning : elapsed ≤ t.ends stage)

theorem ends_pos (stage : τ) : 0 < t.ends stage :=
  Nat.zero_lt_of_lt (t.begins_lt_ends stage)

theorem period_pos : 0 < t.period :=
  Nat.zero_lt_of_lt t.last_lt_period

variable {t} {up : Nat → Bool} {n : Nat} {r r' : Rhythm τ}

theorem starts_iff {cycle elapsed : Nat} (helapsed : 0 < elapsed) (hwithin : elapsed ≤ t.period) :
    t.Starts (t.period * cycle + elapsed) ↔ elapsed = t.period := by
  unfold Starts
  rw [Nat.mul_add_mod]
  rcases Nat.lt_or_eq_of_le hwithin with hlt | rfl
  · rw [Nat.mod_eq_of_lt hlt]
    omega
  · simp
    omega

/-- The place of a tick in its cycle is known when a result is read: it is the end of the
conversion, even if the tick was counted from another cycle. -/
theorem Collects.elapsed_eq {stage : τ} {cycle elapsed : Nat}
    (h : t.Collects up stage (t.period * cycle + elapsed)) (hwithin : elapsed ≤ t.period) :
    elapsed = t.ends stage := by
  obtain ⟨-, -, hread⟩ := h
  have hends := t.ends_pos stage
  rw [Nat.mul_add_mod] at hread
  rcases Nat.lt_or_eq_of_le hwithin with hlt | rfl
  · rwa [Nat.mod_eq_of_lt hlt] at hread
  · rw [Nat.mod_self] at hread
    omega

/-- Before a tick the sensor counts from the last beginning of a cycle before it, whether this cycle
was lost or not. Lost cycles therefore do not move the later ones. -/
theorem Place.cycleStarted_eq (h : t.Place up n r) :
    r.cycleStarted = instant (t.period * ((n - 1) / t.period)) := by
  have hlast := t.last_lt_period
  have hcycle {cycle elapsed : Nat} (helapsed : 0 < elapsed) (hwithin : elapsed ≤ t.period) :
      (t.period * cycle + elapsed - 1) / t.period = cycle := by
    rw [Nat.add_sub_assoc helapsed, Nat.mul_add_div t.period_pos, Nat.div_eq_of_lt (by omega),
      Nat.add_zero]
  cases h with
  | waiting cycle elapsed htick hphase hstarted hwithin hover =>
    rw [hstarted, htick]
    rcases hover with rfl | ⟨helapsed, -⟩
    · rw [Nat.mul_zero, Nat.zero_add, Nat.div_eq_of_lt (by omega), Nat.mul_zero]
    · rw [hcycle helapsed hwithin]
  | converting stage cycle elapsed htick hphase hstarted hentered hpositive hup hbegun hrunning =>
    have hends := t.ends_le_last stage
    rw [hstarted, htick, hcycle (Nat.zero_lt_of_lt hbegun) (by omega)]

/-- A cycle begins in a tick exactly if the sensor counts anew after it. This is how the beginnings
of cycles are seen from outside. -/
theorem starts_iff_cycleStarted (t : Timetable τ) (n : Nat) :
    t.Starts n ↔
      instant (t.period * (n / t.period)) ≠ instant (t.period * ((n - 1) / t.period)) := by
  have hperiod := t.period_pos
  have hinjective {first second : Nat} : instant first = instant second ↔ first = second := by
    simp only [Nat.le_antisymm_iff, instant_le_instant]
  rw [ne_eq, hinjective, Nat.mul_left_cancel_iff hperiod]
  cases n with
  | zero => simp [Starts]
  | succ n =>
    rw [Nat.succ_div, Nat.add_sub_cancel, Starts, ← Nat.dvd_iff_mod_eq_zero]
    by_cases hdvd : t.period ∣ n + 1 <;> simp [hdvd]

/-- While the sensor waits for its interval, its gate opens in exactly those ticks in which a cycle
begins, and there is nothing to read. -/
theorem Place.of_waiting (h : t.Place up n r) (hfits : t.Fits r) (hsteady : t.Steady up)
    (hphase : r.phase = .waitingForInterval) :
    (r.isOpen (instant n) = true ↔ t.Starts n) ∧ ∀ stage, ¬ t.Collects up stage n := by
  cases h with
  | converting stage cycle elapsed htick hconverting => simp [hconverting] at hphase
  | waiting cycle elapsed htick _ hstarted hwithin hover =>
    have hperiod := t.period_pos
    have hopen : r.isOpen (instant n) = true ↔ elapsed = t.period := by
      simp only [Rhythm.isOpen, hphase, decide_eq_true_eq]
      rw [hstarted, hfits.interval, htick, instant_sub_instant, instant_le_instant,
        Nat.add_sub_cancel_left]
      omega
    subst htick
    constructor
    · rcases Nat.eq_zero_or_pos elapsed with rfl | helapsed
      -- Without a tick gone by, this is the set-up itself.
      · obtain rfl : cycle = 0 := by omega
        simp only [hopen, Starts]
        omega
      · rw [hopen, starts_iff helapsed hwithin]
    · intro stage hcollects
      have helapsed := hcollects.elapsed_eq hwithin
      have hends := t.ends_le_last stage
      obtain ⟨hlate, hup, -⟩ := hcollects
      rcases hover with rfl | ⟨-, hdown | hdone⟩
      · have hlast := t.last_lt_period
        omega
      · rw [hsteady cycle elapsed (by omega), hdown] at hup
        nomatch hup
      · omega

/-- While a conversion runs, its gate opens in exactly the tick in which its result is read. No
cycle begins meanwhile, no other result is due, and the device can be reached, since it could be
when the cycle began. -/
theorem Place.of_converting (h : t.Place up n r) (hfits : t.Fits r) (hsteady : t.Steady up)
    {stage : τ} (hphase : r.phase = .waitingForConversion stage) :
    (r.isOpen (instant n) = true ↔ t.Collects up stage n) ∧ ¬ t.Starts n ∧
      (∀ other, t.Collects up other n → other = stage) ∧ up n = true := by
  cases h with
  | waiting cycle elapsed htick hwaiting => simp [hwaiting] at hphase
  | converting other cycle elapsed htick hconverting hstarted hentered hcycle hup hbegun hrunning =>
    obtain rfl : other = stage := Phase.waitingForConversion.inj (hconverting.symm.trans hphase)
    have hends := t.ends_le_last other
    have hlast := t.last_lt_period
    have hnow : up n = true := by
      rw [htick, hsteady cycle elapsed (by omega), hup]
    have hmod : n % t.period = elapsed := by
      rw [htick, Nat.mul_add_mod, Nat.mod_eq_of_lt (by omega)]
    have hlate : t.period ≤ n := by
      have hfirst := Nat.le_mul_of_pos_right t.period hcycle
      omega
    have hopen : r.isOpen (instant n) = true ↔ elapsed = t.ends other := by
      simp only [Rhythm.isOpen, hphase, decide_eq_true_eq]
      rw [hentered, htick, instant_sub_instant, Nat.add_sub_add_left]
      exact hfits.gate other elapsed hbegun hrunning
    refine ⟨?_, ?_, ?_, hnow⟩
    · simp only [hopen, Collects, hmod, hlate, hnow, true_and]
    · simp only [Starts, hmod]
      omega
    · rintro stage ⟨-, -, hread⟩
      rw [hmod] at hread
      exact t.apart other stage (hread ▸ hbegun) (hread ▸ hrunning)

/-- At a closed gate there is nothing to do: no cycle begins in this tick, and no result is read. -/
theorem Place.of_closed (h : t.Place up n r) (hfits : t.Fits r) (hsteady : t.Steady up)
    (hclosed : r.isOpen (instant n) = false) :
    ¬ t.Starts n ∧ ∀ stage, ¬ t.Collects up stage n := by
  cases hphase : r.phase with
  | idle => cases h <;> simp_all
  | waitingForInterval =>
    obtain ⟨hopen, hnothing⟩ := h.of_waiting hfits hsteady hphase
    refine ⟨fun hstarts => ?_, hnothing⟩
    rw [hopen.mpr hstarts] at hclosed
    nomatch hclosed
  | waitingForConversion stage =>
    obtain ⟨hopen, hstarts, hother, -⟩ := h.of_converting hfits hsteady hphase
    refine ⟨hstarts, fun other hcollects => ?_⟩
    obtain rfl := hother other hcollects
    rw [hopen.mpr hcollects] at hclosed
    nomatch hclosed

end Timetable

/-- A warning or an error. Whatever is less severe than that is only information. -/
def Event.complains (e : Event) : Bool :=
  e.level.rank ≤ Level.warn.rank

/-- The complaints among the events that a run reports, in the order in which they come. -/
def complaintsIn (actions : List (Action Event)) : List Event :=
  (actions.filterMap Action.event?).filter Event.complains

@[simp] theorem complaintsIn_nil : complaintsIn [] = [] := rfl

@[simp] theorem complaintsIn_exchanged (e : Exchange) (rest : List (Action Event)) :
    complaintsIn (.exchanged e :: rest) = complaintsIn rest := rfl

@[simp] theorem complaintsIn_reported (event : Event) (rest : List (Action Event)) :
    complaintsIn (.reported event :: rest) =
      if event.complains then event :: complaintsIn rest else complaintsIn rest :=
  List.filter_cons

@[simp] theorem complaintsIn_append (first second : List (Action Event)) :
    complaintsIn (first ++ second) = complaintsIn first ++ complaintsIn second := by
  simp [complaintsIn]

namespace Timetable

variable {τ ρ : Type} {t : Timetable τ} {up : Nat → Bool} {n : Nat} {r r' : Rhythm τ}

/-- What the update in a tick does to the rhythm and the memory of a sensor when its device answers
whenever it is in reach, and what it has to complain about. A cycle that cannot begin is given up at
once and costs one complaint. -/
inductive Step (t : Timetable τ) (up : Nat → Bool) (sensor : Sensor) (n : Nat) (r : Rhythm τ)
    (m : Memory ρ) : List Event → Rhythm τ → Memory ρ → Prop where
  | rests (hclosed : r.isOpen (instant n) = false) : Step t up sensor n r m [] r m
  | starts (hphase : r.phase = .waitingForInterval) (hopen : r.isOpen (instant n) = true)
      (hup : up n = true) :
    Step t up sensor n r m []
      { r with cycleStarted := instant n
               stateEntered := instant n
               phase := .waitingForConversion t.first } m
  | refused (hphase : r.phase = .waitingForInterval) (hopen : r.isOpen (instant n) = true)
      (hdown : up n = false) (error : SensorError) :
    Step t up sensor n r m [.cycleAbandoned sensor error]
      { r with cycleStarted := instant n
               stateEntered := instant n
               phase := .waitingForInterval } m
  | advances {stage next : τ} (hphase : r.phase = .waitingForConversion stage)
      (hopen : r.isOpen (instant n) = true) (hnext : t.begins next = t.ends stage) :
    Step t up sensor n r m []
      { r with stateEntered := instant n, phase := .waitingForConversion next } m
  | stores (hphase : r.phase = .waitingForConversion t.last)
      (hopen : r.isOpen (instant n) = true) (reading : ρ) :
    Step t up sensor n r m [] { r with phase := .waitingForInterval }
      ⟨some reading, some (instant n)⟩

variable {sensor : Sensor} {m m' : Memory ρ} {complaints : List Event}

theorem Place.rest (h : t.Place up n r) (hfits : t.Fits r) (hsteady : t.Steady up)
    (hclosed : r.isOpen (instant n) = false) : t.Place up (n + 1) r := by
  cases h with
  | waiting cycle elapsed htick hphase hstarted hwithin hover =>
    have hplace : t.Place up n r := .waiting cycle elapsed htick hphase hstarted hwithin hover
    have hstarts : ¬ t.Starts n := by
      rw [← (hplace.of_waiting hfits hsteady hphase).1, hclosed]
      exact Bool.false_ne_true
    have hperiod := t.period_pos
    have hnext : elapsed + 1 ≤ t.period := by
      rcases Nat.eq_zero_or_pos elapsed with rfl | helapsed
      · exact hperiod
      · rw [htick, starts_iff helapsed hwithin] at hstarts
        omega
    refine .waiting cycle (elapsed + 1) (by omega) hphase hstarted hnext ?_
    rcases hover with hfirst | ⟨-, hdown | hdone⟩
    · exact .inl hfirst
    · exact .inr ⟨Nat.succ_pos _, .inl hdown⟩
    · exact .inr ⟨Nat.succ_pos _, .inr (Nat.lt_succ_of_lt hdone)⟩
  | converting stage cycle elapsed htick hphase hstarted hentered hcycle hup hbegun hrunning =>
    have hgate := hfits.gate stage elapsed hbegun hrunning
    have hbefore : elapsed ≠ t.ends stage := by
      rw [ne_eq, ← hgate]
      simp only [Rhythm.isOpen, hphase, decide_eq_false_iff_not] at hclosed
      rwa [hentered, htick, instant_sub_instant, Nat.add_sub_add_left] at hclosed
    refine .converting stage cycle (elapsed + 1) ?_ hphase hstarted hentered hcycle hup ?_ ?_
    all_goals omega

/-- A sensor that is where its timetable puts it is still there after the update in this tick. This
is the step on which all runs rest. -/
theorem Step.place (hstep : t.Step up sensor n r m complaints r' m') (h : t.Place up n r)
    (hfits : t.Fits r) (hsteady : t.Steady up) : t.Place up (n + 1) r' := by
  have hperiod := t.period_pos
  cases hstep with
  | rests hclosed => exact h.rest hfits hsteady hclosed
  | starts hphase hopen hup =>
    obtain ⟨hpositive, hmod⟩ := (h.of_waiting hfits hsteady hphase).1.mp hopen
    obtain ⟨cycle, rfl⟩ := Nat.dvd_of_mod_eq_zero hmod
    have hfirst := t.begins_lt_ends t.first
    have hbegins := t.begins_first
    refine .converting t.first cycle 1 rfl rfl rfl ?_ (Nat.pos_of_mul_pos_left hpositive) hup ?_ ?_
    · rw [hbegins, Nat.add_zero]
    all_goals omega
  | refused hphase hopen hdown error =>
    obtain ⟨-, hmod⟩ := (h.of_waiting hfits hsteady hphase).1.mp hopen
    obtain ⟨cycle, rfl⟩ := Nat.dvd_of_mod_eq_zero hmod
    exact .waiting cycle 1 rfl rfl rfl hperiod (.inr ⟨Nat.one_pos, .inl hdown⟩)
  | advances hphase hopen hnext =>
    rename_i stage next
    obtain ⟨hcollects, -, -, -⟩ := h.of_converting hfits hsteady hphase
    cases h with
    | waiting cycle elapsed htick hwaiting => simp [hwaiting] at hphase
    | converting other cycle elapsed htick hother hstarted hentered hcycle hup hbegun hrunning =>
      obtain rfl : other = stage := Phase.waitingForConversion.inj (hother.symm.trans hphase)
      subst htick
      have hends := t.ends_le_last other
      have hlast := t.last_lt_period
      have helapsed := (hcollects.mp hopen).elapsed_eq (by omega)
      have hrest := t.begins_lt_ends next
      refine .converting next cycle (elapsed + 1) (by omega) rfl hstarted ?_ hcycle hup ?_ ?_
      · rw [hnext, ← helapsed]
      all_goals omega
  | stores hphase hopen reading =>
    obtain ⟨hcollects, -, -, -⟩ := h.of_converting hfits hsteady hphase
    cases h with
    | waiting cycle elapsed htick hwaiting => simp [hwaiting] at hphase
    | converting other cycle elapsed htick hother hstarted hentered hcycle hup hbegun hrunning =>
      obtain rfl : other = t.last := Phase.waitingForConversion.inj (hother.symm.trans hphase)
      subst htick
      have hlast := t.last_lt_period
      have helapsed := (hcollects.mp hopen).elapsed_eq (by omega)
      refine .waiting cycle (elapsed + 1) (by omega) rfl hstarted (by omega) (.inr ⟨?_, .inr ?_⟩)
      all_goals omega

/-- The place of a sensor and what it remembers, before a tick. Its latest reading is older than the
tick, so a reading with the time of the tick is a new one. -/
structure OnTime (t : Timetable τ) (up : Nat → Bool) (n : Nat) (r : Rhythm τ)
    (m : Memory ρ) : Prop where
  place : t.Place up n r
  fits : t.Fits r
  coherent : m.Coherent
  past : ∀ time, m.lastSuccess = some time → time < instant n

theorem OnTime.start (hfits : t.Fits r) (hphase : r.phase = .waitingForInterval)
    (hstarted : r.cycleStarted = 0) (hlatest : m.latest = none) (hsuccess : m.lastSuccess = none) :
    t.OnTime up 0 r m where
  place := by
    refine .waiting 0 0 ?_ hphase ?_ (Nat.zero_le _) (.inl rfl)
    · simp
    · rw [hstarted, Nat.mul_zero]
      rfl
  fits := hfits
  coherent := by simp [Memory.Coherent, hlatest, hsuccess]
  past := by simp [hsuccess]

theorem OnTime.step (h : t.OnTime up n r m) (hsteady : t.Steady up)
    (hstep : t.Step up sensor n r m complaints r' m') : t.OnTime up (n + 1) r' m' := by
  have hplace := hstep.place h.place h.fits hsteady
  have hlater : ∀ time, m.lastSuccess = some time → time < instant (n + 1) := fun time htime =>
    Nat.lt_trans (h.past time htime) (instant_lt_succ n)
  cases hstep with
  | rests => exact ⟨hplace, h.fits, h.coherent, hlater⟩
  | starts | refused | advances =>
    exact ⟨hplace, ⟨h.fits.interval, h.fits.gate⟩, h.coherent, hlater⟩
  | stores hphase hopen reading =>
    refine ⟨hplace, ⟨h.fits.interval, h.fits.gate⟩, rfl, fun time htime => ?_⟩
    obtain rfl : instant n = time := Option.some.inj htime
    exact instant_lt_succ n

/-- What becomes of the memory in a tick: there is a reading in the tick that the timetable has for
it, with the time of this tick, and in no other. -/
inductive Stores (t : Timetable τ) (up : Nat → Bool) (n : Nat) (m : Memory ρ) :
    Memory ρ → Prop where
  | stored (hcollects : t.Collects up t.last n) (reading : ρ) :
    Stores t up n m ⟨some reading, some (instant n)⟩
  | kept (hcollects : ¬ t.Collects up t.last n) : Stores t up n m m

/-- After its last conversion the sensor has a reading, and it keeps one that it had before. -/
theorem Stores.isSome (h : t.Stores up n m m')
    (hsome : t.Collects up t.last n ∨ m.latest.isSome) : m'.latest.isSome := by
  cases h with
  | stored => rfl
  | kept hcollects => exact hsome.resolve_left hcollects

/-- There is a complaint when a cycle should begin out of reach, and no other. It says that this
sensor has given up its cycle. -/
inductive Complains (t : Timetable τ) (up : Nat → Bool) (sensor : Sensor) (n : Nat) :
    List Event → Prop where
  | missed (hstarts : t.Starts n) (hdown : up n = false) (error : SensorError) :
    Complains t up sensor n [.cycleAbandoned sensor error]
  | content (hreached : t.Starts n → up n = true) : Complains t up sensor n []

theorem Complains.eq_nil (h : t.Complains up sensor n complaints) (hup : up n = true) :
    complaints = [] := by
  cases h with
  | missed hstarts hdown => simp [hup] at hdown
  | content => rfl

/-- A tick as it is seen from outside: what is stored, what is complained of, and how many
transactions there are. -/
structure Turn (t : Timetable τ) (up : Nat → Bool) (sensor : Sensor) (n : Nat)
    (m m' : Memory ρ) (visits : Nat) (actions : List (Action Event)) : Prop where
  stores : t.Stores up n m m'
  complains : t.Complains up sensor n (complaintsIn actions)
  visits_eq : (actions.filterMap Action.exchange?).length = visits

theorem OnTime.stores (h : t.OnTime up n r m) (hsteady : t.Steady up)
    (hstep : t.Step up sensor n r m complaints r' m') : t.Stores up n m m' := by
  cases hstep with
  | rests hclosed => exact .kept ((h.place.of_closed h.fits hsteady hclosed).2 t.last)
  | starts hphase | refused hphase =>
    exact .kept ((h.place.of_waiting h.fits hsteady hphase).2 t.last)
  | advances hphase hopen hnext =>
    rename_i stage next
    refine .kept fun hcollects => ?_
    -- After the last conversion there is none to trigger.
    obtain ⟨-, -, hother, -⟩ := h.place.of_converting h.fits hsteady hphase
    obtain rfl := hother t.last hcollects
    have hbegins := t.begins_lt_ends next
    have hends := t.ends_le_last next
    omega
  | stores hphase hopen reading =>
    obtain ⟨hcollects, -⟩ := h.place.of_converting h.fits hsteady hphase
    exact .stored (hcollects.mp hopen) reading

theorem OnTime.complains (h : t.OnTime up n r m) (hsteady : t.Steady up)
    (hstep : t.Step up sensor n r m complaints r' m') : t.Complains up sensor n complaints := by
  cases hstep with
  | rests hclosed =>
    obtain ⟨hstarts, -⟩ := h.place.of_closed h.fits hsteady hclosed
    exact .content fun hstart => absurd hstart hstarts
  | starts hphase hopen hup => exact .content fun _ => hup
  | refused hphase hopen hdown error =>
    exact .missed ((h.place.of_waiting h.fits hsteady hphase).1.mp hopen) hdown error
  | advances hphase | stores hphase =>
    obtain ⟨-, hstarts, -⟩ := h.place.of_converting h.fits hsteady hphase
    exact .content fun hstart => absurd hstart hstarts

/-- An update that is a step of the timetable looks from outside like the turn that the timetable
has for this tick. -/
theorem OnTime.turn (h : t.OnTime up n r m) (hsteady : t.Steady up)
    {actions : List (Action Event)} {visits : Nat}
    (hstep : t.Step up sensor n r m (complaintsIn actions) r' m' ∧
      (actions.filterMap Action.exchange?).length = visits) :
    t.Turn up sensor n m m' visits actions where
  stores := h.stores hsteady hstep.1
  complains := h.complains hsteady hstep.1
  visits_eq := hstep.2

end Timetable

end AirStation
