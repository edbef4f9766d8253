import AirStation.Proofs.Simulated.Vacant
import AirStation.Proofs.Simulation.Healthy

/-!
A flaky address at which nothing is attached. The run goes on side by side with the one that has no
flaky device: before each tick the two simulations differ in nothing but the options and the
addresses that are offline (`Beside.after`), so they do the same and say the same.

Both runs are compared as wholes. What is sent is compared transaction by transaction, with the
answers, from the set-up to the last read of the baseline (`traffics`), and of the outputs only the
line differs that repeats the options. The comparison does not ask how long the runs are, so it
holds where their milliseconds do not fit in a word as well.
-/

namespace AirStation

/-- On a bus with all three devices an address is vacant when it is none of theirs. -/
theorem SimulatedBus.Furnished.vacant {b : SimulatedBus} {htu : Htu21d.Model} {ccs : Ccs811.Model}
    {bme : Bme68x.Model} (h : b.Furnished htu ccs bme) {address : UInt8}
    (hhtu : address ≠ Htu21d.address) (hccs : address ≠ Ccs811.standardAddress)
    (hbme : address ≠ Bme68x.standardAddress) : b.Vacant address where
  htu21d haddress := absurd haddress hhtu
  ccs811 m hm haddress := by
    obtain rfl := Option.some.inj (h.ccs811.present.symm.trans hm)
    exact hccs (haddress.symm.trans h.ccs811.address_eq)
  bme68x m hm haddress := by
    obtain rfl := Option.some.inj (h.bme68x.present.symm.trans hm)
    exact hbme (haddress.symm.trans h.bme68x.address_eq)

namespace Simulation

open SimulatedBus (OfflineBeside)

/-- The simulation with a flaky address, and with these addresses offline. Everything else is as it
was, the devices included. -/
def withFlaky (s : Simulation) (address : UInt8) (offline : List UInt8) : Simulation :=
  { s with
    options := { s.options with flaky := some address }
    bus := { s.bus with offline := offline } }

/-- What two runs that go on side by side have in common before a tick: nothing is at the address,
and apart from it the same addresses are offline. -/
structure Beside (s : Simulation) (address : UInt8) (offline : List UInt8) : Prop where
  flaky : s.options.flaky = none
  vacant : s.bus.Vacant address
  offline : OfflineBeside address s.bus.offline offline

variable {s : Simulation} {address : UInt8} {offline : List UInt8}

theorem vacant_weather {b : SimulatedBus} (h : b.Vacant address) (seconds : Float) :
    (Weather.apply seconds b).Vacant address where
  htu21d haddress := by simp [Weather.apply, h.htu21d haddress]
  ccs811 m hm := by
    obtain ⟨before, hbefore, rfl⟩ := Option.map_eq_some_iff.mp hm
    exact h.ccs811 before hbefore
  bme68x m hm := by
    obtain ⟨before, hbefore, rfl⟩ := Option.map_eq_some_iff.mp hm
    exact h.bme68x before hbefore

/-- The flaky address comes or goes, and no other. If too many addresses are offline already, it
stays, which makes no difference either. -/
theorem Beside.setFlaky (h : s.Beside address offline) :
    ∃ offline', (s.withFlaky address offline).setFlaky = s.withFlaky address offline' ∧
      s.Beside address offline' := by
  let silent := decide (s.now / 1000 % 7 = 6)
  let others := offline.filter (· != address)
  have hothers : OfflineBeside address s.bus.offline others := by
    intro other hother
    rw [← h.offline other hother]
    simp [others, List.contains_eq_mem, hother]
  have hadded : OfflineBeside address s.bus.offline (others ++ [address]) := by
    intro other hother
    rw [← hothers other hother]
    simp [List.contains_eq_mem, hother]
  by_cases hsilent : silent && others.length < SimulatedBus.maxOffline
  · refine ⟨others ++ [address], ?_, h.flaky, h.vacant, hadded⟩
    exact congrArg (fun bus => { s.withFlaky address offline with bus := bus }) (if_pos hsilent)
  · refine ⟨others, ?_, h.flaky, h.vacant, hothers⟩
    exact congrArg (fun bus => { s.withFlaky address offline with bus := bus }) (if_neg hsilent)

/-- The weather changes in both runs alike, and the runs stay side by side. -/
theorem Beside.changeWeather (h : s.Beside address offline) :
    ∃ offline', (s.withFlaky address offline).changeWeather =
        s.changeWeather.withFlaky address offline' ∧
      s.changeWeather.Beside address offline' := by
  by_cases hsecond : s.now % weatherMillis = 0
  · let s' := { s with weather := s.weather + 1, bus := Weather.apply (s.weather + 1) s.bus }
    have h' : s'.Beside address offline :=
      ⟨h.flaky, vacant_weather h.vacant (s.weather + 1), h.offline⟩
    have hunchanged : s'.setFlaky = s' := by
      simp only [Simulation.setFlaky, h'.flaky]
    have hchanged : s.changeWeather = s' := (if_pos hsecond).trans hunchanged
    obtain ⟨offline', hflaky, hbeside⟩ := h'.setFlaky
    rw [hchanged]
    exact ⟨offline', (if_pos hsecond).trans hflaky, hbeside⟩
  · have hchanged : s.changeWeather = s := if_neg hsecond
    rw [hchanged]
    exact ⟨offline, if_neg hsecond, h⟩

/-- A tick does the same in both runs and says the same, and the runs stay side by side. -/
theorem Beside.tick (h : s.Beside address offline) :
    (s.withFlaky address offline).pollRun.actions = s.pollRun.actions ∧
    ∃ offline', (s.withFlaky address offline).tick =
        (s.tick.1.withFlaky address offline', s.tick.2) ∧
      s.tick.1.Beside address offline' := by
  obtain ⟨offline', hweather, hbeside⟩ := h.changeWeather
  obtain ⟨hrun, hvacant, hkept⟩ :=
    hbeside.vacant.run hbeside.offline (s.changeWeather.station.poll (.ofMillis s.now))
  have hpoll : (s.withFlaky address offline).pollRun =
      { s.pollRun with bus := { s.pollRun.bus with offline := offline' } } := by
    rw [pollRun, hweather]
    exact hrun
  refine ⟨by rw [hpoll], offline', ?_, ?_⟩
  · rw [tick_eq, tick_eq, hweather, hpoll]
    rfl
  · rw [tick_eq]
    exact ⟨hbeside.flaky, hvacant, hkept ▸ hbeside.offline⟩

/-- After any number of ticks the two runs are side by side, by induction on the ticks. -/
theorem Beside.after (h : s.Beside address offline) (n : Nat) :
    ∃ offline', (s.withFlaky address offline).after n = (s.after n).withFlaky address offline' ∧
      (s.after n).Beside address offline' := by
  induction n with
  | zero => exact ⟨offline, rfl, h⟩
  | succ n ih =>
    obtain ⟨offline', hafter, hbeside⟩ := ih
    obtain ⟨-, offline'', htick, hbeside⟩ := hbeside.tick
    refine ⟨offline'', ?_, hbeside⟩
    show ((s.withFlaky address offline).after n).tick.1 = _
    rw [hafter, htick]
    rfl

theorem Beside.finish (h : s.Beside address offline) :
    (s.withFlaky address offline).finish.2 = s.finish.2 := by
  obtain ⟨hrun, -⟩ := h.vacant.run h.offline s.station.baseline
  have hperform : (s.withFlaky address offline).perform (·.baseline) =
      ((s.perform (·.baseline)).1, (s.perform (·.baseline)).2.1.withFlaky address offline,
        (s.perform (·.baseline)).2.2) := by
    simp only [perform, withFlaky, hrun]
    rfl
  simp only [Simulation.finish, readBaseline, hperform]
  generalize s.perform (·.baseline) = performed
  obtain ⟨result, s', events⟩ := performed
  cases result with
  | error error => rfl
  | ok record => cases record <;> rfl

theorem eq_withFlaky {station : Station} {bus : SimulatedBus} (hoffline : bus.offline = [])
    (seconds : UInt64) (address : UInt8) :
    { create ⟨seconds, some address⟩ with station := station, bus := bus } =
      withFlaky { create ⟨seconds, none⟩ with station := station, bus := bus } address [] := by
  rw [← hoffline]
  rfl

/-- A simulation with a flaky address starts like one without. The address is offline only from the
first bad second on. -/
theorem start_flaky (seconds : UInt64) (address : UInt8) :
    (start ⟨seconds, some address⟩).1 = (start ⟨seconds, none⟩).1.withFlaky address [] := by
  obtain ⟨⟨hinstalled, hrestored, -⟩, hsettled⟩ := start_settled
  have hstart (options : Options) :=
    start_of_ok installation_eq restoration_eq options hinstalled hrestored
  rw [hstart, hstart]
  exact eq_withFlaky hsettled.calm.2 seconds address

variable {seconds : UInt64}

/-- What is sent after the last tick, when the baseline is read once more. -/
def closing (options : Options) : List Exchange :=
  let last := (start options).1.after (tickCount options)
  (last.station.baseline.run last.bus).exchanges

theorem Beside.storedNext?_eq (h : s.Beside address offline) {ρ : Type}
    (memory : Station → Option (Memory ρ)) :
    storedNext? memory (s.withFlaky address offline) = storedNext? memory s := by
  obtain ⟨-, offline', htick, -⟩ := h.tick
  unfold storedNext?
  rw [htick]
  rfl

/-- After the last tick the two runs are still side by side; they have equally many ticks. -/
theorem Beside.last (h : (start ⟨seconds, none⟩).1.Beside address []) :
    ∃ offline, (start ⟨seconds, some address⟩).1.after (tickCount ⟨seconds, some address⟩) =
        ((start ⟨seconds, none⟩).1.after (tickCount ⟨seconds, none⟩)).withFlaky address offline ∧
      ((start ⟨seconds, none⟩).1.after (tickCount ⟨seconds, none⟩)).Beside address offline := by
  obtain ⟨offline, hafter, hbeside⟩ := h.after (tickCount ⟨seconds, none⟩)
  rw [start_flaky]
  exact ⟨offline, hafter, hbeside⟩

end Simulation

end AirStation
