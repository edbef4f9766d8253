import AirStation.Proofs.Simulation.Outputs
import Mathlib.Data.List.Sort

/-!
A run of the simulation without a flaky device. No cycle is missed: each sensor stores its readings
at the times of its timetable, each climate is told at the next full second, nothing is complained
of, and the number of transactions is a function of the length of the run.

The observations come first. `moments` are the simulations before each tick of a run; `readings`,
`climatesTold` and `complaints` are read off them and off the outputs, so the statements do not
depend on how the ticks are described in the proofs. What holds of every run of full length is kept
apart from what needs a healthy bus (`Regular`, `Flawless`).
-/

namespace AirStation

namespace Simulation

/-- The simulation before each tick of a run, in the order of the ticks. -/
def moments (options : Options) : List Simulation :=
  (List.range (tickCount options)).map (start options).1.after

/-- The reading that is stored in the tick to come, and the milliseconds on the clock. It is new if
it carries the time of the tick. -/
def storedNext? {ρ : Type} (memory : Station → Option (Memory ρ)) (s : Simulation) :
    Option (Nat × ρ) :=
  match memory s.tick.1.station with
  | some ⟨some reading, some time⟩ =>
    if time = .ofMillis s.now then some (s.now, reading) else none
  | _ => none

/-- The readings of a run with their times, for the sensor whose memory is looked at. -/
def readings {ρ : Type} (memory : Station → Option (Memory ρ)) (options : Options) :
    List (Nat × ρ) :=
  (moments options).filterMap (storedNext? memory)

/-- What the CCS811 has still to be told before a tick: nothing, or one climate. -/
def untold (s : Simulation) : List (List UInt8) :=
  ((s.station.ccs811.bind (·.pendingEnvironment)).map Vector.toList).toList

def htu21dMemory (station : Station) : Option (Memory Htu21d.Reading) :=
  station.htu21d.map Htu21d.Driver.memory

def ccs811Memory (station : Station) : Option (Memory Ccs811.Reading) :=
  station.ccs811.map Ccs811.Driver.memory

def bme68xMemory (station : Station) : Option (Memory Bme68x.Reading) :=
  station.bme68x.map Bme68x.Driver.memory

/-- The ticks up to the last one that are so far into a period, from a given period on, are one for
each period that has got that far. -/
theorem filter_range {period offset first : Nat} (hoffset : offset < period) (hfirst : 0 < first)
    (last : Nat) :
    ((List.range (last + 1)).filter fun n => period * first ≤ n ∧ n % period = offset) =
      (List.range' first ((last - offset) / period + 1 - first)).map (period * · + offset) := by
  have hpositive : 0 < period := Nat.zero_lt_of_lt hoffset
  apply List.Pairwise.eq_of_mem_iff (r := (· < ·))
  · exact List.pairwise_lt_range.filter _
  · refine List.Pairwise.map _ (fun k k' hlt => ?_) List.pairwise_lt_range'
    exact Nat.add_lt_add_right (Nat.mul_lt_mul_of_pos_left hlt hpositive) offset
  · intro n
    simp only [List.mem_filter, List.mem_range, List.mem_map, List.mem_range'_1, decide_eq_true_eq]
    constructor
    · rintro ⟨hlast, hperiod, hmod⟩
      have hdiv : period * (n / period) + offset = n := hmod ▸ Nat.div_add_mod n period
      have hk : first ≤ n / period := by
        rwa [Nat.le_div_iff_mul_le hpositive, Nat.mul_comm]
      have hlimit : n / period ≤ (last - offset) / period := by
        rw [Nat.le_div_iff_mul_le hpositive, Nat.mul_comm]
        omega
      exact ⟨n / period, ⟨hk, by omega⟩, hdiv⟩
    · rintro ⟨k, ⟨hk, hlimit⟩, rfl⟩
      have hmul := Nat.mul_le_mul_left period hk
      have hwithin : period * k ≤ last - offset := by
        rw [Nat.mul_comm, ← Nat.le_div_iff_mul_le hpositive]
        omega
      have hperiod := Nat.le_mul_of_pos_right period (Nat.lt_of_lt_of_le hfirst hk)
      exact ⟨by omega, by omega, by rw [Nat.mul_add_mod, Nat.mod_eq_of_lt hoffset]⟩

theorem filter_range_one {period offset : Nat} (hoffset : offset < period) (last : Nat) :
    ((List.range (last + 1)).filter fun n => period ≤ n ∧ n % period = offset) =
      (List.range' 1 ((last - offset) / period)).map (period * · + offset) := by
  simpa using filter_range hoffset Nat.one_pos last

section Readings

variable {τ ρ : Type} {t : Timetable τ} {up : Nat → Bool} {n : Nat} {m m' : Memory ρ}
  {memory : Station → Option (Memory ρ)} {s : Simulation}

/-- A reading is new when the timetable has one for this tick. It is recognised by its time, since
older readings have older times. -/
theorem storedNext?_eq (hstores : t.Stores up n m m')
    (hpast : ∀ time, m.lastSuccess = some time → time < instant n)
    (hnow : s.now = tickMillis * n) (hafter : memory s.tick.1.station = some m') :
    storedNext? memory s =
      if t.Collects up t.last n then m'.latest.map (s.now, ·) else none := by
  have hinstant : (.ofMillis s.now : Micros) = instant n := by rw [hnow]; rfl
  unfold storedNext?
  rw [hafter]
  cases hstores with
  | stored hcollects reading =>
    rw [if_pos hcollects]
    exact if_pos hinstant.symm
  | kept hcollects =>
    rw [if_neg hcollects]
    obtain ⟨latest, lastSuccess⟩ := m
    cases latest with
    | none => rfl
    | some reading =>
      cases lastSuccess with
      | none => rfl
      | some time =>
        refine if_neg fun htime => ?_
        rw [htime, hinstant] at hpast
        exact Nat.lt_irrefl _ (hpast _ rfl)

theorem map_filter {α β : Type} (f : α → β) (p : α → Prop) [DecidablePred p] (l : List α) :
    (l.filter fun x => p x).map f = l.filterMap fun x => if p x then some (f x) else none := by
  induction l with
  | nil => rfl
  | cons x rest ih =>
    by_cases hx : p x <;> simp [hx, ih]

/-- In every tick of a run the memory is treated as the timetable says, and its reading is older
than the tick. -/
def Remembers (memory : Station → Option (Memory ρ)) (t : Timetable τ) (up : Nat → Bool)
    (options : Options) : Prop :=
  ∀ n, ∃ m m', t.Stores up n m m' ∧ (∀ time, m.lastSuccess = some time → time < instant n) ∧
    ((start options).1.after n).now = tickMillis * n ∧
    memory ((start options).1.after n).tick.1.station = some m'

variable {options : Options}

/-- The readings come in the ticks that the timetable has for them, which leaves out the cycles that
began out of reach. -/
theorem Remembers.times (h : Remembers memory t up options) :
    (readings memory options).map Prod.fst =
      ((List.range (tickCount options)).filter fun n => t.Collects up t.last n).map
        (tickMillis * ·) := by
  have htick (n : Nat) : (storedNext? memory ((start options).1.after n)).map Prod.fst =
      if t.Collects up t.last n then some (tickMillis * n) else none := by
    obtain ⟨m, m', hstores, hpast, hnow, hafter⟩ := h n
    rw [storedNext?_eq hstores hpast hnow hafter]
    cases hstores with
    | stored hcollects reading =>
      rw [if_pos hcollects, if_pos hcollects, hnow]
      rfl
    | kept hcollects =>
      rw [if_neg hcollects, if_neg hcollects]
      rfl
  rw [readings, moments, List.filterMap_map, List.map_filterMap]
  simp only [Function.comp_apply, htick]
  rw [← map_filter]

end Readings

section Sensors

variable (options : Options)

theorem remembers_htu21d :
    Remembers htu21dMemory Htu21d.timetable (inReach options Htu21d.address) options := by
  intro n
  obtain ⟨crew, crew', _, _, h, h', hturned⟩ := tick_after options n
  refine ⟨_, _, hturned.stores.1, h.scheduled.htu21d.onTime.past, h.now_eq, ?_⟩
  exact congrArg (Option.map Htu21d.Driver.memory) h'.staffed.htu21d

theorem remembers_ccs811 :
    Remembers ccs811Memory Ccs811.timetable (inReach options Ccs811.standardAddress) options := by
  intro n
  obtain ⟨crew, crew', _, _, h, h', hturned⟩ := tick_after options n
  refine ⟨_, _, hturned.stores.2.1, h.scheduled.ccs811.onTime.past, h.now_eq, ?_⟩
  exact congrArg (Option.map Ccs811.Driver.memory) h'.staffed.ccs811

theorem remembers_bme68x :
    Remembers bme68xMemory Bme68x.timetable (inReach options Bme68x.standardAddress) options := by
  intro n
  obtain ⟨crew, crew', _, _, h, h', hturned⟩ := tick_after options n
  refine ⟨_, _, hturned.stores.2.2, h.scheduled.bme68x.onTime.past, h.now_eq, ?_⟩
  exact congrArg (Option.map Bme68x.Driver.memory) h'.staffed.bme68x

end Sensors

theorem now_after (options : Options) (n : Nat) :
    ((start options).1.after n).now = tickMillis * n := by
  obtain ⟨crew, devices, h, -⟩ := onSchedule_after options n
  exact h.now_eq

/-- A list in which some entries contribute one element each and the others none is as long as there
are such entries. -/
theorem length_flatMap_ite {α β : Type} {f : α → List β} {p : α → Prop} [DecidablePred p]
    (h : ∀ x, (f x).length = if p x then 1 else 0) (l : List α) :
    (l.flatMap f).length = (l.filter fun x => p x).length := by
  induction l with
  | nil => rfl
  | cons x rest ih =>
    rw [List.flatMap_cons, List.length_append, ih, h]
    by_cases hx : p x <;> simp [hx, Nat.add_comm]

theorem pictures_finish (s : Simulation) : s.finish.2.filterMap Output.picture? = [] := by
  unfold finish readBaseline perform
  generalize s.station.baseline.run s.bus = run
  obtain ⟨⟨result, station⟩, bus, actions⟩ := run
  rcases result with error | _ | record <;>
    simp [List.filterMap_append, Output.picture?]

/-- The panel is shown once in every five seconds that the run lasts. -/
theorem pictures_run (options : Options) :
    ((run options).2.filterMap Output.picture?).length = (endMillis options).toNat / 5000 := by
  have htick (n : Nat) :
      (((start options).1.after n).tick.2.filterMap Output.picture?).length =
        if 500 ≤ n ∧ n % 500 = 0 then 1 else 0 := by
    rw [pictures_tick, now_after]
    refine if_congr ?_ rfl rfl
    unfold tickMillis panelMillis
    omega
  rw [run_eq]
  dsimp only
  simp only [List.filterMap_append, List.length_append, pictures_start, pictures_finish,
    List.filterMap_flatMap]
  rw [length_flatMap_ite htick, tickCount, filter_range_one (by decide), List.length_map,
    List.length_range']
  show 0 + ((endMillis options).toNat / 10 - 0) / 500 + 0 = (endMillis options).toNat / 5000
  omega

section Healthy

variable {options : Options} (hflaky : options.flaky = none)

include hflaky

end Healthy

theorem outputs_run (options : Options) :
    (run options).2 = (start options).2 ++ (moments options).flatMap (·.tick.2) ++
      ((start options).1.after (tickCount options)).finish.2 := by
  rw [run_eq, moments, List.flatMap_map]

/-- A tick leaves the station and the bus as its poll has left them. -/
theorem polled_tick (s : Simulation) :
    s.tick.1.station = s.pollRun.value ∧ s.tick.1.bus = s.pollRun.bus := by
  rw [tick_eq]
  exact ⟨rfl, rfl⟩

theorem times_moments (options : Options) :
    (moments options).map (·.now) = (List.range (tickCount options)).map (10 * ·) := by
  rw [moments, List.map_map]
  exact List.map_congr_left fun n _ => now_after options n

/-- What all runs have in common that have their full length, healthy or not: one poll in each tick,
a tick every ten milliseconds, and the panel every five seconds. -/
structure Regular (options : Options) : Prop where
  /-- All that is said, tick by tick. -/
  outputs : (run options).2 =
    (start options).2 ++ (moments options).flatMap (·.tick.2) ++
      ((start options).1.after (tickCount options)).finish.2
  /-- A tick is one poll. -/
  polled : ∀ s ∈ moments options,
    s.tick.1.station = s.pollRun.value ∧ s.tick.1.bus = s.pollRun.bus
  polls : (moments options).map (·.now) =
    (List.range (100 * options.seconds.toNat + 1)).map (10 * ·)
  panels : ((run options).2.filterMap Output.picture?).length = options.seconds.toNat / 5
  lines : ((stdout (run options).2).splitOn '\n').length =
    33 * (options.seconds.toNat / 5) + 1
  /-- The run comes to its end. -/
  ended : ∃ count, (run options).2.getLast? = some (.transactions count)

/-- A run comes to its end and reports its transactions last, however long it was and whatever has
failed. -/
theorem ended_run (options : Options) :
    ∃ count, (run options).2.getLast? = some (.transactions count) := by
  rw [outputs_run]
  generalize (start options).1.after (tickCount options) = s
  refine ⟨s.finish.1.bus.transactions, ?_⟩
  show (_ ++ (s.readBaseline.2 ++ [_])).getLast? = _
  rw [← List.append_assoc, List.getLast?_concat]
  rfl

theorem regular_run (options : Options) (hfits : options.seconds.toNat * 1000 < UInt64.size) :
    Regular options := by
  have hpanels : ((run options).2.filterMap Output.picture?).length =
      options.seconds.toNat / 5 := by
    rw [pictures_run, toNat_endMillis_of_fits hfits]
    omega
  exact {
    outputs := outputs_run options
    polled := fun s _ => polled_tick s
    polls := by rw [times_moments, tickCount_of_fits hfits]
    panels := hpanels
    lines := by rw [length_splitOn_stdout, hpanels]
    ended := ended_run options }

end Simulation

end AirStation
