import AirStation.Proofs.Simulation.Schedule
import AirStation.Proofs.Station.Traffic

/-!
The run of a simulation, tick by tick. `after` is the simulation that so many ticks have left, and
`pollRun` what the station does on the bus in the tick that comes then; it polls once (`tick_eq`). A
run is the start, its ticks and the end, and its outputs are theirs in this order (`run_eq`).

The number of ticks is another matter. The end of a run is a product of words, so a run has the
length that its options ask for only if the product fits (`tickCount_eq_iff`).
-/

namespace AirStation

namespace Simulation

/-- The simulation after so many more ticks, without what they have said. -/
def after (s : Simulation) : Nat → Simulation
  | 0 => s
  | n + 1 => (s.after n).tick.1

/-- What the station does on the bus in a tick: the poll after the weather has changed, with
everything that is sent and reported. -/
def pollRun (s : Simulation) : Run SimulatedBus Event Station :=
  (s.changeWeather.station.poll (.ofMillis s.now)).run s.changeWeather.bus

theorem now_changeWeather (s : Simulation) : s.changeWeather.now = s.now := by
  unfold changeWeather setFlaky
  split
  · dsimp only
    split <;> rfl
  · rfl

/-- A poll replaces the station and the bus by what its run leaves, and says what the run
reports. -/
theorem poll_eq (s : Simulation) :
    let run := (s.station.poll (.ofMillis s.now)).run s.bus
    s.poll = ({ s with station := run.value, bus := run.bus }, run.events.map .event) := by
  simp [poll, perform, BusM.run_bind, BusM.run, Run.events, pure]

/-- A tick changes the weather, polls once and moves the clock on; the panel is shown as it is after
the poll. -/
theorem tick_eq (s : Simulation) :
    let run := s.pollRun
    let polled := { s.changeWeather with station := run.value, bus := run.bus }
    s.tick = ({ polled with now := s.now + tickMillis },
      run.events.map .event ++ polled.showPanel) := by
  have hpoll := poll_eq s.changeWeather
  have hrun : (s.changeWeather.station.poll (.ofMillis s.changeWeather.now)).run
      s.changeWeather.bus = s.pollRun := by
    rw [now_changeWeather, pollRun]
  unfold tick
  rw [hpoll]
  dsimp only
  rw [hrun, now_changeWeather]

/-- The loop over the ticks, unrolled: its outputs are those of the single ticks, one after
another. -/
theorem ticks_eq (s : Simulation) (count : Nat) (outputs : Array Output) :
    ticks count s outputs =
      (s.after count,
        outputs ++ ((List.range count).flatMap fun n => (s.after n).tick.2).toArray) := by
  have hfrom (n : Nat) : ticks count (s.after n) outputs =
      (s.after (n + count),
        outputs ++ ((List.range' n count).flatMap fun i => (s.after i).tick.2).toArray) := by
    induction count generalizing n outputs with
    | zero => simp [ticks]
    | succ count ih =>
      have hrest := ih (outputs ++ (s.after n).tick.2.toArray) (n + 1)
      rw [ticks]
      refine hrest.trans ?_
      simp [List.range'_succ, Nat.add_right_comm, Nat.add_assoc]
  simpa [List.range_eq_range', after] using hfrom 0

/-- A run says what its start says, then what its ticks say, then what its end says. -/
theorem run_eq (options : Options) :
    let first := (start options).1
    let last := (first.after (tickCount options)).finish
    run options = (last.1, (start options).2 ++
      ((List.range (tickCount options)).flatMap fun n => (first.after n).tick.2) ++ last.2) := by
  unfold run
  -- What the start comes to is of no concern here.
  generalize start options = started
  obtain ⟨s, before⟩ := started
  dsimp only
  rw [ticks_eq, Array.empty_append]

section Length

variable {options : Options}

/-- The end of a run is what the word keeps of the product. -/
theorem toNat_endMillis (options : Options) :
    (endMillis options).toNat = options.seconds.toNat * 1000 % UInt64.size :=
  UInt64.toNat_mul _ _

/-- A run has its full length when its milliseconds fit in a word. -/
theorem toNat_endMillis_of_fits (hfits : options.seconds.toNat * 1000 < UInt64.size) :
    (endMillis options).toNat = options.seconds.toNat * 1000 := by
  rw [toNat_endMillis, Nat.mod_eq_of_lt hfits]

/-- There are a hundred ticks in a second and one more in the end, exactly if the milliseconds fit.
If they do not, what the word has lost is lost by the run. -/
theorem tickCount_eq_iff :
    tickCount options = 100 * options.seconds.toNat + 1 ↔
      options.seconds.toNat * 1000 < UInt64.size := by
  rw [tickCount, toNat_endMillis]
  unfold tickMillis UInt64.size
  omega

theorem tickCount_of_fits (hfits : options.seconds.toNat * 1000 < UInt64.size) :
    tickCount options = 100 * options.seconds.toNat + 1 :=
  tickCount_eq_iff.mpr hfits

end Length

end Simulation

end AirStation
