import AirStation.Proofs.Simulation.Unattached

/-!
A run with a flaky sensor. It falls silent for one second out of seven, and loses the cycles that
begin there: each of them ends with a warning, and the next one comes when its interval has gone by.
Every other cycle stores its reading when it would have stored it without the outages (`flaky_run`).

A run lasts as long as what a word keeps of its milliseconds, and everything is counted for this
length first (`cycleStarts_range`, `readingTimes_eq`). Only in runs of full length does it come out
as the options ask for (`Interrupted`). The shortest run that is cut short has nothing of what was
asked for (`overlong_run_cut_short`).
-/

namespace AirStation

namespace Sensor

/-- Where the simulation has the device of the sensor, by the standard configuration. -/
def address : Sensor → UInt8
  | .htu21d => Htu21d.address
  | .ccs811 => Ccs811.standardAddress
  | .bme68x => Bme68x.standardAddress

/-- Seconds from one cycle to the next, by the standard configuration. -/
def cycleSeconds : Sensor → Nat
  | .htu21d => 1
  | .ccs811 => 1
  | .bme68x => 3

/-- Milliseconds from the beginning of a cycle to its reading, in whole ticks. -/
def dataMillis : Sensor → Nat
  | .htu21d => 70
  | .ccs811 => 10
  | .bme68x => 140

theorem address_injective {sensor other : Sensor} (h : other.address = sensor.address) :
    other = sensor := by
  revert h
  cases sensor <;> cases other <;> decide

end Sensor

/-- A warning that the sensor will try again, recognised by the end of its message. -/
def LogLine.retries (line : LogLine) : Bool :=
  line.level = .warn && "retrying next interval".toList.isSuffixOf line.message.toList

/-- The warnings of a run that announce another attempt. They are among its complaints. -/
def retries (outputs : List Output) : List LogLine :=
  (outputs.filterMap Output.log?).filter LogLine.retries

@[simp] theorem retries_append (first second : List Output) :
    retries (first ++ second) = retries first ++ retries second := by
  simp [retries]

theorem retries_eq (outputs : List Output) :
    retries outputs = (complaints outputs).filter LogLine.retries := by
  rw [retries, complaints, List.filter_filter]
  refine List.filter_congr fun line _ => ?_
  by_cases hlevel : line.level = .warn
  · simp [LogLine.complains, hlevel]
  · simp [LogLine.retries, hlevel]

/-- A cycle that is given up is told of in such a warning, whatever the error was. -/
theorem retries_cycleAbandoned (sensor : Sensor) (error : SensorError) :
    (LogLine.ofEvent (.cycleAbandoned sensor error)).retries = true := by
  have hmessage : (LogLine.ofEvent (.cycleAbandoned sensor error)).message =
    error.message ++ "; retrying next interval" := rfl
  rw [LogLine.retries, hmessage, Bool.and_eq_true, String.toList_append,
    List.isSuffixOf_iff_suffix]
  exact ⟨rfl, List.suffix_append_of_suffix ⟨"; ".toList, by decide⟩⟩

namespace Simulation

/-- When the sensor has begun the cycle that it is in. Before the first cycle this is the time of
its set-up. -/
def cycleStarted? : Sensor → Station → Option Micros
  | .htu21d, station => station.htu21d.map (·.timer.cycleStarted)
  | .ccs811, station => station.ccs811.map (·.timer.cycleStarted)
  | .bme68x, station => station.bme68x.map (·.timer.cycleStarted)

/-- The times at which the sensor begins a cycle, within reach or not: the ticks in which it counts
anew. -/
def cycleStarts (sensor : Sensor) (options : Options) : List Nat :=
  ((moments options).filter fun s =>
    cycleStarted? sensor s.tick.1.station ≠ cycleStarted? sensor s.station).map (·.now)

/-- The times at which the sensor stores a reading, one for each reading of the run. -/
def readingTimes : Sensor → Options → List Nat
  | .htu21d, options => (readings htu21dMemory options).map Prod.fst
  | .ccs811, options => (readings ccs811Memory options).map Prod.fst
  | .bme68x, options => (readings bme68xMemory options).map Prod.fst

/-- The address is the flaky one, and silent in the second in which this time lies. -/
def Silenced (options : Options) (address : UInt8) (time : Nat) : Prop :=
  options.flaky = some address ∧ time / 1000 % 7 = 6

instance (options : Options) (address : UInt8) (time : Nat) :
    Decidable (Silenced options address time) :=
  inferInstanceAs (Decidable (_ ∧ _))

/-- Being in reach in a tick and not being silent at its time are the same, since a bad second
begins and ends with a tick. -/
theorem inReach_iff {options : Options} {address : UInt8} {n : Nat} :
    inReach options address n = true ↔ ¬ Silenced options address (tickMillis * n) := by
  have hsecond : tickMillis * n / 1000 = n / 100 := by
    unfold tickMillis
    omega
  unfold Silenced
  rw [hsecond, inReach, silent]
  by_cases hbad : n / 100 % 7 = 6
  · rw [if_pos hbad, and_iff_left hbad]
    cases options.flaky with
    | none => simp
    | some flaky => simpa using not_congr eq_comm
  · simp [hbad]

/-- A cycle of the sensor begins in this tick, by its timetable. -/
def Begins (sensor : Sensor) (n : Nat) : Prop :=
  0 < n ∧ n % (100 * sensor.cycleSeconds) = 0

instance (sensor : Sensor) (n : Nat) : Decidable (Begins sensor n) :=
  inferInstanceAs (Decidable (_ ∧ _))

variable {options : Options} {sensor : Sensor} {n : Nat}

/-- Before a tick every sensor counts from its last full interval, which lost cycles do not
delay. -/
theorem cycleStarted?_after (options : Options) (sensor : Sensor) (n : Nat) :
    cycleStarted? sensor ((start options).1.after n).station =
      some (instant (100 * sensor.cycleSeconds * ((n - 1) / (100 * sensor.cycleSeconds)))) := by
  obtain ⟨crew, devices, h, -⟩ := onSchedule_after options n
  generalize (start options).1.after n = s at h
  cases sensor with
  | htu21d =>
    rw [cycleStarted?, h.staffed.htu21d]
    exact congrArg some h.scheduled.htu21d.onTime.place.cycleStarted_eq
  | ccs811 =>
    rw [cycleStarted?, h.staffed.ccs811]
    exact congrArg some h.scheduled.ccs811.onTime.place.cycleStarted_eq
  | bme68x =>
    rw [cycleStarted?, h.staffed.bme68x]
    exact congrArg some h.scheduled.bme68x.onTime.place.cycleStarted_eq

/-- The sensor counts anew in exactly those ticks in which its timetable has a cycle begin. -/
theorem begins_iff (options : Options) (sensor : Sensor) (n : Nat) :
    cycleStarted? sensor ((start options).1.after n).tick.1.station ≠
      cycleStarted? sensor ((start options).1.after n).station ↔ Begins sensor n := by
  have hafter := cycleStarted?_after options sensor (n + 1)
  rw [after, Nat.add_sub_cancel] at hafter
  rw [hafter, cycleStarted?_after, ne_eq, Option.some_inj]
  cases sensor with
  | htu21d => exact (Htu21d.timetable.starts_iff_cycleStarted n).symm
  | ccs811 => exact (Ccs811.timetable.starts_iff_cycleStarted n).symm
  | bme68x => exact (Bme68x.timetable.starts_iff_cycleStarted n).symm

theorem cycleStarts_eq (sensor : Sensor) (options : Options) :
    cycleStarts sensor options =
      ((List.range (tickCount options)).filter fun n => Begins sensor n).map (tickMillis * ·) := by
  rw [cycleStarts, moments, List.filter_map, List.map_map]
  simp only [Function.comp_def, begins_iff, now_after]

/-- Outages or not, a cycle begins whenever the interval has gone by, as long as the run lasts. -/
theorem cycleStarts_range (sensor : Sensor) (options : Options) :
    cycleStarts sensor options =
      (List.range' 1 ((endMillis options).toNat / 1000 / sensor.cycleSeconds)).map
        (1000 * sensor.cycleSeconds * ·) := by
  have hpositive : 0 < sensor.cycleSeconds := by cases sensor <;> decide
  have hbegins (n : Nat) : Begins sensor n ↔
      100 * sensor.cycleSeconds ≤ n ∧ n % (100 * sensor.cycleSeconds) = 0 := by
    unfold Begins
    refine and_congr_left fun hmod => ⟨fun hn => ?_, fun hn => by omega⟩
    exact Nat.le_of_dvd hn (Nat.dvd_of_mod_eq_zero hmod)
  have hcount : ((endMillis options).toNat / tickMillis - 0) / (100 * sensor.cycleSeconds) =
      (endMillis options).toNat / 1000 / sensor.cycleSeconds := by
    rw [← Nat.div_div_eq_div_mul]
    congr 1
    unfold tickMillis
    omega
  simp only [cycleStarts_eq, hbegins]
  rw [tickCount, filter_range_one (by omega), hcount, List.map_map]
  refine List.map_congr_left fun k _ => ?_
  show 10 * (100 * sensor.cycleSeconds * k + 0) = 1000 * sensor.cycleSeconds * k
  simp only [Nat.add_zero, ← Nat.mul_assoc]

/-- A cycle that begins within reach stores its reading, if there is still time for it, and every
reading belongs to such a cycle. -/
theorem collects_eq {τ : Type} {t : Timetable τ} {up : Nat → Bool} (hsteady : t.Steady up)
    (last : Nat) :
    ((List.range (last + 1)).filter fun n => t.Collects up t.last n) =
      (((List.range (last + 1)).filter fun n => t.Starts n).filter fun n =>
        up n = true ∧ n + t.ends t.last ≤ last).map (· + t.ends t.last) := by
  have hperiod := t.period_pos
  have hlast := t.last_lt_period
  apply List.Pairwise.eq_of_mem_iff (r := (· < ·))
  · exact List.pairwise_lt_range.filter _
  · refine List.Pairwise.map _ (fun n n' hlt => Nat.add_lt_add_right hlt _) ?_
    exact (List.pairwise_lt_range.filter _).filter _
  · intro n
    simp only [List.mem_filter, List.mem_range, List.mem_map, decide_eq_true_eq]
    constructor
    · rintro ⟨hn, hlate, hup, hread⟩
      have hcycle : n = t.period * (n / t.period) + t.ends t.last := by
        rw [← hread, Nat.div_add_mod]
      have hreached := hsteady (n / t.period) (t.ends t.last) (Nat.le_refl _)
      rw [← hcycle, hup] at hreached
      have hpositive : 0 < t.period * (n / t.period) :=
        Nat.mul_pos hperiod (Nat.div_pos hlate hperiod)
      exact ⟨t.period * (n / t.period),
        ⟨⟨by omega, hpositive, Nat.mul_mod_right _ _⟩, hreached.symm, by omega⟩, hcycle.symm⟩
    · rintro ⟨begun, ⟨⟨hbegun, hpositive, hmod⟩, hup, hwithin⟩, rfl⟩
      obtain ⟨cycle, rfl⟩ := Nat.dvd_of_mod_eq_zero hmod
      have hlate := Nat.le_mul_of_pos_right t.period (Nat.pos_of_mul_pos_left hpositive)
      refine ⟨by omega, by omega, ?_, ?_⟩
      · rw [hsteady cycle _ (Nat.le_refl _), hup]
      · rw [Nat.mul_add_mod, Nat.mod_eq_of_lt hlast]

theorem times_of_collects {τ : Type} {t : Timetable τ} {times : List Nat}
    (hsteady : t.Steady (inReach options sensor.address))
    (hbegins : ∀ n, t.Starts n ↔ Begins sensor n)
    (hends : tickMillis * t.ends t.last = sensor.dataMillis)
    (htimes : times = ((List.range (tickCount options)).filter fun n =>
      t.Collects (inReach options sensor.address) t.last n).map (tickMillis * ·)) :
    times = ((cycleStarts sensor options).filter fun begun =>
      ¬ Silenced options sensor.address begun ∧
        begun + sensor.dataMillis ≤ (endMillis options).toNat).map (· + sensor.dataMillis) := by
  have hkept (n : Nat) : (inReach options sensor.address n = true ∧
      n + t.ends t.last ≤ (endMillis options).toNat / tickMillis) ↔
        ¬ Silenced options sensor.address (tickMillis * n) ∧
          tickMillis * n + sensor.dataMillis ≤ (endMillis options).toNat := by
    rw [inReach_iff, ← hends]
    unfold tickMillis
    refine and_congr_right fun _ => ?_
    omega
  rw [htimes, tickCount, collects_eq hsteady, cycleStarts_eq, tickCount, List.filter_map,
    List.map_map, List.map_map]
  simp only [Function.comp_def, hkept, hbegins, Nat.mul_add, hends]

/-- A run stores one reading for each cycle that begins within reach and ends in time, as late after
its beginning as the data of this sensor takes. -/
theorem readingTimes_eq (sensor : Sensor) (options : Options) :
    readingTimes sensor options =
      ((cycleStarts sensor options).filter fun begun =>
        ¬ Silenced options sensor.address begun ∧
          begun + sensor.dataMillis ≤ (endMillis options).toNat).map (· + sensor.dataMillis) := by
  cases sensor with
  | htu21d =>
    exact times_of_collects (t := Htu21d.timetable) (steady_htu21d options _) (fun _ => Iff.rfl) rfl
      (remembers_htu21d options).times
  | ccs811 =>
    exact times_of_collects (t := Ccs811.timetable) (steady_ccs811 options _) (fun _ => Iff.rfl) rfl
      (remembers_ccs811 options).times
  | bme68x =>
    exact times_of_collects (t := Bme68x.timetable) (steady_bme68x options _) (fun _ => Iff.rfl) rfl
      (remembers_bme68x options).times

section Complains

variable {τ : Type} {t : Timetable τ} {up : Nat → Bool} {complaints : List Event}

/-- A turn complains of one cycle that is given up, if it should begin out of reach, and otherwise
of nothing. -/
theorem errors_of_complains (h : t.Complains up sensor n complaints) :
    ∃ errors : List SensorError, complaints = errors.map (.cycleAbandoned sensor) ∧
      errors.length = if t.Starts n ∧ up n = false then 1 else 0 := by
  cases h with
  | missed hstarts hdown error => exact ⟨[error], rfl, (if_pos ⟨hstarts, hdown⟩).symm⟩
  | content hreached =>
    refine ⟨[], rfl, (if_neg ?_).symm⟩
    rintro ⟨hstarts, hdown⟩
    rw [hreached hstarts] at hdown
    nomatch hdown

end Complains

section Flaky

variable (hflaky : options.flaky = some sensor.address)

include hflaky

/-- The other sensors are in reach all the time, since no two devices share an address. -/
theorem inReach_of_other {other : Sensor} (hother : other ≠ sensor) (n : Nat) :
    inReach options other.address n = true := by
  rw [inReach_iff]
  rintro ⟨hsame, -⟩
  exact hother (Sensor.address_injective (Option.some.inj (hsame.symm.trans hflaky)))

/-- Only the flaky sensor complains, once for each cycle that it loses. The other two have their
turns in the same poll and say nothing. -/
theorem complaintsIn_flaky (n : Nat) :
    ∃ errors : List SensorError,
      complaintsIn ((start options).1.after n).pollRun.actions =
        errors.map (.cycleAbandoned sensor) ∧
      errors.length =
        if Begins sensor n ∧ inReach options sensor.address n = false then 1 else 0 := by
  obtain ⟨crew, crew', -, -, -, -, hturned⟩ := tick_after options n
  have hcalm (other : Sensor) (hother : other ≠ sensor) := inReach_of_other hflaky hother n
  generalize ((start options).1.after n).pollRun.actions = actions at hturned ⊢
  cases hturned with
  | mk htu21d ccs811 bme68x =>
    simp only [complaintsIn_append]
    cases sensor with
    | htu21d =>
      rw [ccs811.complains.eq_nil (hcalm .ccs811 (by decide)),
        bme68x.complains.eq_nil (hcalm .bme68x (by decide)), List.append_nil,
        List.append_nil]
      exact errors_of_complains htu21d.complains
    | ccs811 =>
      rw [htu21d.complains.eq_nil (hcalm .htu21d (by decide)),
        bme68x.complains.eq_nil (hcalm .bme68x (by decide)), List.append_nil,
        List.nil_append]
      exact errors_of_complains ccs811.complains
    | bme68x =>
      rw [htu21d.complains.eq_nil (hcalm .htu21d (by decide)),
        ccs811.complains.eq_nil (hcalm .ccs811 (by decide)), List.nil_append,
        List.nil_append]
      exact errors_of_complains bme68x.complains

/-- In a tick there is a warning that announces another attempt exactly if a cycle begins in a bad
second, and it is the flaky sensor's. -/
theorem retries_tick (n : Nat) :
    (retries ((start options).1.after n).tick.2).length =
        (if Begins sensor n ∧ tickMillis * n / 1000 % 7 = 6 then 1 else 0) ∧
      ∀ line ∈ retries ((start options).1.after n).tick.2,
        line.target = LogLine.sensorTarget sensor := by
  obtain ⟨errors, hcomplaints, hcount⟩ := complaintsIn_flaky hflaky n
  have hbad : inReach options sensor.address n = false ↔ tickMillis * n / 1000 % 7 = 6 := by
    rw [← Bool.not_eq_true, inReach_iff, not_not]
    exact and_iff_right hflaky
  have hretries : retries ((start options).1.after n).tick.2 =
      errors.map fun error => .ofEvent (.cycleAbandoned sensor error) := by
    rw [retries_eq, complaints_tick, hcomplaints, List.map_map]
    refine List.filter_eq_self.mpr fun line hline => ?_
    obtain ⟨error, -, rfl⟩ := List.mem_map.mp hline
    exact retries_cycleAbandoned sensor error
  rw [hretries, List.length_map, hcount]
  refine ⟨if_congr (and_congr_right fun _ => hbad) rfl rfl, fun line hline => ?_⟩
  obtain ⟨error, -, rfl⟩ := List.mem_map.mp hline
  rfl

end Flaky

theorem not_retries_of_parenthesis {line : LogLine} (text : String)
    (h : line.message = text ++ ")") : line.retries = false := by
  have hends : "retrying next interval".toList.isSuffixOf (text ++ ")").toList = false := by
    rw [String.toList_append, List.isSuffixOf, List.reverse_append]
    rfl
  rw [LogLine.retries, h, hends, Bool.and_false]

/-- The messages about a failed transaction end with the fault in parentheses. -/
theorem message_failure (operation : String) (fault : Fault) :
    ∃ text, (Ccs811.Driver.failure operation fault).message = text ++ ")" :=
  ⟨_, rfl⟩

/-- A baseline that cannot be read is not read again, and the warning about it does not say so. -/
theorem retries_baselineFailed {d d' : Ccs811.Driver} {actions : List (Action Event)}
    {error : SensorError} (h : d.ReadBaseline actions (.error error, d')) :
    retries [.baselineFailed error] = [] := by
  cases h with
  | idle => rfl
  | refused hphase fault =>
    obtain ⟨text, hmessage⟩ := message_failure "read baseline" fault
    have hline : (Output.warning ("Baseline read failed: " ++
        (Ccs811.Driver.failure "read baseline" fault).message)).retries = false := by
      apply not_retries_of_parenthesis ("Baseline read failed: " ++ text)
      rw [hmessage]
      exact String.append_assoc.symm
    refine List.filter_cons_of_neg fun hretries => ?_
    exact Bool.false_ne_true (hline.symm.trans hretries)

/-- The end of a run announces no other attempt, whether its baseline can be read or not. -/
theorem retries_finish (options : Options) (n : Nat) :
    retries ((start options).1.after n).finish.2 = [] := by
  obtain ⟨crew, devices, h, -⟩ := onSchedule_after options n
  generalize (start options).1.after n = s at h
  have hrun := run_baseline h.staffed.ccs811 s.bus
  have hread := crew.ccs811.readBaseline_always.run s.bus
  generalize crew.ccs811.readBaseline.run s.bus = read at hrun hread
  obtain ⟨⟨result, d⟩, bus, actions⟩ := read
  have hevents : retries ((actions.filterMap Action.event?).map .event) = [] := by
    have hcalm : (actions.filterMap Action.event?).filter Event.complains = [] :=
      complaintsIn_readBaseline hread
    rw [retries_eq, complaints_events, hcalm]
    rfl
  cases result with
  | ok baseline =>
    rw [finish_of_read hrun rfl, retries_append, retries_append]
    exact congrArg (· ++ [] ++ []) hevents
  | error error =>
    rw [finish_of_unread hrun rfl, retries_append, retries_append, retries_baselineFailed hread]
    exact congrArg (· ++ [] ++ []) hevents

/-- Every lost cycle is told of once, and by nobody but the flaky sensor. The warnings of a run are
added up over its ticks. -/
theorem retries_run (hflaky : options.flaky = some sensor.address) :
    (retries (run options).2).length =
        ((cycleStarts sensor options).filter fun begun => begun / 1000 % 7 = 6).length ∧
      ∀ line ∈ retries (run options).2, line.target = LogLine.sensorTarget sensor := by
  have hstart : retries (start options).2 = [] := by
    rw [retries_eq, complaints_start]
    rfl
  have hrun : retries (run options).2 = (List.range (tickCount options)).flatMap fun n =>
      retries ((start options).1.after n).tick.2 := by
    rw [run_eq]
    dsimp only
    rw [retries_append, retries_append, retries_finish, hstart, List.nil_append, List.append_nil,
      retries, List.filterMap_flatMap, List.filter_flatMap]
    rfl
  rw [hrun, length_flatMap_ite fun n => (retries_tick hflaky n).1, cycleStarts_eq,
    List.filter_map, List.length_map, List.filter_filter]
  constructor
  · simp only [Function.comp_def, ← Bool.decide_and, and_comm]
  · intro line hline
    obtain ⟨n, -, htick⟩ := List.mem_flatMap.mp hline
    exact (retries_tick hflaky n).2 line htick

/-- One cycle in seven begins in a bad second, whether the sensor has a cycle every second or every
third, since seven and three have no common divisor. -/
theorem length_lost (sensor : Sensor) (count : Nat) :
    ((List.range' 1 count).filter fun k => sensor.cycleSeconds * k % 7 = 6).length =
      match sensor with
      | .htu21d | .ccs811 => (count + 1) / 7
      | .bme68x => (count + 5) / 7 := by
  induction count with
  | zero => cases sensor <;> rfl
  | succ count ih =>
    rw [List.range'_1_concat, List.filter_append, List.length_append, ih, List.filter_singleton,
      Bool.cond_decide, apply_ite List.length]
    cases sensor with
    | htu21d | ccs811 =>
      show (count + 1) / 7 + (if 1 * (1 + count) % 7 = 6 then 1 else 0) = (count + 1 + 1) / 7
      split <;> omega
    | bme68x =>
      have hbad : 3 * (1 + count) % 7 = 6 ↔ (1 + count) % 7 = 2 := by omega
      show (count + 5) / 7 + (if 3 * (1 + count) % 7 = 6 then 1 else 0) = (count + 1 + 5) / 7
      rw [if_congr hbad rfl rfl]
      split <;> omega

/-- What the outages of a sensor cost, compared with the healthy run of the same length. No other
cycle is lost, delayed or added, of this sensor or of the others. -/
structure Interrupted (seconds : UInt64) (sensor : Sensor) : Prop where
  regular : Regular ⟨seconds, some sensor.address⟩
  /-- No cycle is skipped, and none is added. -/
  cycles : ∀ each, cycleStarts each ⟨seconds, some sensor.address⟩ =
    (List.range' 1 (seconds.toNat / each.cycleSeconds)).map (1000 * each.cycleSeconds * ·)
  sameCycles : ∀ each, cycleStarts each ⟨seconds, some sensor.address⟩ =
    cycleStarts each ⟨seconds, none⟩
  warnings : (retries (run ⟨seconds, some sensor.address⟩).2).length =
    ((cycleStarts sensor ⟨seconds, some sensor.address⟩).filter
      fun begun => begun / 1000 % 7 = 6).length
  warningCount : (retries (run ⟨seconds, some sensor.address⟩).2).length =
    match sensor with
    | .htu21d | .ccs811 => (seconds.toNat + 1) / 7
    | .bme68x => (seconds.toNat / 3 + 5) / 7
  /-- Nobody else warns. -/
  warned : ∀ line ∈ retries (run ⟨seconds, some sensor.address⟩).2,
    line.target = LogLine.sensorTarget sensor
  /-- Without outages every cycle stores its reading, if there is still time for it. -/
  healthy : ∀ each, readingTimes each ⟨seconds, none⟩ =
    ((cycleStarts each ⟨seconds, none⟩).filter fun begun =>
      begun + each.dataMillis ≤ 1000 * seconds.toNat).map (· + each.dataMillis)
  /-- The outages cost the readings of the cycles that begin in a bad second. -/
  stored : readingTimes sensor ⟨seconds, some sensor.address⟩ =
    ((cycleStarts sensor ⟨seconds, some sensor.address⟩).filter fun begun =>
      begun / 1000 % 7 ≠ 6 ∧ begun + sensor.dataMillis ≤ 1000 * seconds.toNat).map
        (· + sensor.dataMillis)
  sameReadings : readingTimes sensor ⟨seconds, some sensor.address⟩ =
    (readingTimes sensor ⟨seconds, none⟩).filter fun time => time / 1000 % 7 ≠ 6
  spared : ∀ other, other ≠ sensor →
    readingTimes other ⟨seconds, some sensor.address⟩ = readingTimes other ⟨seconds, none⟩

/-- The second of a cycle is also that of its reading, so outages can be told from the times of the
readings. -/
theorem second_of_cycle (sensor : Sensor) (k : Nat) :
    1000 * sensor.cycleSeconds * k / 1000 = sensor.cycleSeconds * k ∧
      (1000 * sensor.cycleSeconds * k + sensor.dataMillis) / 1000 = sensor.cycleSeconds * k := by
  have hdata : sensor.dataMillis < 1000 := by cases sensor <;> decide
  rw [Nat.mul_assoc]
  omega

section FullLength

variable {seconds : UInt64} (hfits : seconds.toNat * 1000 < UInt64.size)

include hfits

theorem endMillis_of_fits (flaky : Option UInt8) :
    (endMillis ⟨seconds, flaky⟩).toNat = seconds.toNat * 1000 :=
  toNat_endMillis_of_fits hfits

theorem cycleStarts_of_fits (sensor : Sensor) (flaky : Option UInt8) :
    cycleStarts sensor ⟨seconds, flaky⟩ =
      (List.range' 1 (seconds.toNat / sensor.cycleSeconds)).map
        (1000 * sensor.cycleSeconds * ·) := by
  rw [cycleStarts_range, endMillis_of_fits hfits, Nat.mul_div_cancel _ (by decide)]

/-- In a run of full length there is time for the readings of all cycles that are over by its last
second. -/
theorem readingTimes_of_fits (sensor : Sensor) (flaky : Option UInt8) :
    readingTimes sensor ⟨seconds, flaky⟩ =
      ((cycleStarts sensor ⟨seconds, flaky⟩).filter fun begun =>
        ¬ Silenced ⟨seconds, flaky⟩ sensor.address begun ∧
          begun + sensor.dataMillis ≤ 1000 * seconds.toNat).map (· + sensor.dataMillis) := by
  rw [readingTimes_eq, endMillis_of_fits hfits, Nat.mul_comm seconds.toNat]

theorem readingTimes_healthy (sensor : Sensor) :
    readingTimes sensor ⟨seconds, none⟩ =
      ((cycleStarts sensor ⟨seconds, none⟩).filter fun begun =>
        begun + sensor.dataMillis ≤ 1000 * seconds.toNat).map (· + sensor.dataMillis) := by
  simp only [readingTimes_of_fits hfits, Silenced, reduceCtorEq, false_and, not_false_eq_true,
    true_and]

theorem readingTimes_flaky (sensor : Sensor) :
    readingTimes sensor ⟨seconds, some sensor.address⟩ =
      ((cycleStarts sensor ⟨seconds, some sensor.address⟩).filter fun begun =>
        begun / 1000 % 7 ≠ 6 ∧ begun + sensor.dataMillis ≤ 1000 * seconds.toNat).map
          (· + sensor.dataMillis) := by
  simp only [readingTimes_of_fits hfits, Silenced, true_and, ne_eq]

/-- Every run of full length with a flaky sensor pays what `Interrupted` says and nothing else. -/
theorem interrupted (sensor : Sensor) : Interrupted seconds sensor where
  regular := regular_run ⟨seconds, some sensor.address⟩ hfits
  cycles each := cycleStarts_of_fits hfits each _
  sameCycles each := by rw [cycleStarts_of_fits hfits, cycleStarts_of_fits hfits]
  warnings := (retries_run rfl).1
  warningCount := by
    rw [(retries_run rfl).1, cycleStarts_of_fits hfits, List.filter_map, List.length_map]
    simp only [Function.comp_def, second_of_cycle, length_lost]
    cases sensor with
    | htu21d | ccs811 => exact congrArg (fun count => (count + 1) / 7) (Nat.div_one seconds.toNat)
    | bme68x => rfl
  warned := (retries_run rfl).2
  healthy := readingTimes_healthy hfits
  stored := readingTimes_flaky hfits sensor
  sameReadings := by
    rw [readingTimes_flaky hfits, readingTimes_healthy hfits, cycleStarts_of_fits hfits,
      cycleStarts_of_fits hfits]
    simp only [List.filter_map, List.filter_filter, Function.comp_def, second_of_cycle,
      Bool.decide_and]
  spared other hother := by
    have hreached (begun : Nat) : ¬ Silenced ⟨seconds, some sensor.address⟩ other.address begun :=
      fun hsilenced => hother (Sensor.address_injective (Option.some.inj hsilenced.1).symm)
    rw [readingTimes_healthy hfits, readingTimes_of_fits hfits, cycleStarts_of_fits hfits,
      cycleStarts_of_fits hfits]
    simp only [hreached, not_false_eq_true, true_and]

end FullLength

/-- What every run has in common, also one whose milliseconds do not fit in a word: it is as long as
what the word keeps of them, and comes to its end. -/
structure Timed (options : Options) : Prop where
  polls : (moments options).map (·.now) =
    (List.range (options.seconds.toNat * 1000 % UInt64.size / 10 + 1)).map (10 * ·)
  panels : ((run options).2.filterMap Output.picture?).length =
    options.seconds.toNat * 1000 % UInt64.size / 5000
  /-- The clock is a word as well, and never wraps. -/
  clock : ∀ s ∈ moments options, s.now + tickMillis < UInt64.size
  ended : ∃ count, (run options).2.getLast? = some (.transactions count)

/-- A run of full length polls a hundred times in a second, and a run that is cut short does not. -/
theorem Regular.fits {options : Options} (h : Regular options) :
    options.seconds.toNat * 1000 < UInt64.size := by
  have hlength := congrArg List.length h.polls
  rw [List.length_map, List.length_map, List.length_range, moments, List.length_map,
    List.length_range] at hlength
  exact tickCount_eq_iff.mp hlength

end Simulation

end AirStation
