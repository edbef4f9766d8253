import AirStation.Proofs.Bme68x.Steps
import AirStation.Proofs.Ccs811.Steps
import AirStation.Proofs.Htu21d.Steps
import AirStation.Proofs.Sensor.Memory
import AirStation.Simulated.Bus

/-!
A cycle that fails costs nothing but itself. Each driver says which traffic of an update counts as a
failure, and from its list of outcomes it follows that such an update gives the cycle up and keeps
the memory. `failed_cycle_changes_only_the_cycle` puts the three drivers side by side.

A failure is described by what was seen on the bus: a transaction that was not acknowledged, or an
answer that the driver has reason to reject. What the driver makes of it, and which transaction it
was, does not enter the description, so no way to fail is left out.
-/

namespace AirStation

/-- Some transaction was not acknowledged, whichever it was and for whatever reason. -/
def SomeFailed (exchanges : List Exchange) : Prop :=
  ∃ e ∈ exchanges, e.acknowledged = false

namespace Htu21d

def Call.updated : Call → Option Micros
  | .init _ => none
  | .update now => some now

namespace Driver

/-- The latest reading of the HTU21D with its time, which are kept or replaced together. -/
def memory (d : Driver) : Memory Reading :=
  ⟨d.latest, d.timer.lastSuccess⟩

/-- A transaction failed, or an answer came with a wrong checksum. Either of them ends the cycle. -/
def CycleFailed (exchanges : List Exchange) : Prop :=
  SomeFailed exchanges ∨ ∃ bytes, ¬ Intact bytes ∧ .received address bytes ∈ exchanges

/-- An update in which something fails gives the cycle up, keeps the memory, and drops a temperature
that had no humidity yet. -/
theorem Update.failed {d d' : Driver} {now : Micros} {actions : List (Action Event)}
    (h : d.Update now actions d') (hfailed : CycleFailed (actions.filterMap Action.exchange?)) :
    d'.phase = .waitingForInterval ∧ d'.memory = d.memory ∧ d'.pendingTemperature = none := by
  cases h with
  | startRefused | unread | spoilt | halfwayRefused | dropped => exact ⟨rfl, rfl, rfl⟩
  | rested | started | halfway | measured =>
    simp_all [CycleFailed, SomeFailed, Exchange.received_ne_wrote]

/-- A call keeps the memory, or it is an update that stores a reading with its time. -/
theorem Step.change {d d' : Driver} {c : Call} {actions : List (Action Event)}
    (h : d.Step c actions d') : d.memory.Change c.updated d'.memory := by
  cases c with
  | init now =>
    obtain ⟨result, hinit⟩ := h
    cases hinit <;> exact .kept none
  | update now =>
    cases h with
    | measured => exact .renewed now _
    | rested | started | startRefused | unread | spoilt | halfway | halfwayRefused | dropped =>
      exact .kept _

end Driver

end Htu21d

namespace Ccs811

def Call.updated : Call → Option Micros
  | .update now => some now
  | _ => none

namespace Driver

/-- The latest reading of the CCS811 with its time, which are kept or replaced together. -/
def memory (d : Driver) : Memory Reading :=
  ⟨d.latest, d.timer.lastSuccess⟩

@[simp] theorem memory_interrupted (d : Driver) : d.interrupted.memory = d.memory := by
  simp [memory]

/-- A transaction failed, or the status had the error bit or announced no result. -/
def CycleFailed (d : Driver) (exchanges : List Exchange) : Prop :=
  SomeFailed exchanges ∨
    ∃ bytes, (Erroneous bytes ∨ ¬ Fresh bytes) ∧ .received d.address bytes ∈ exchanges

/-- An update in which something fails gives the cycle up and keeps the memory, whichever of its
transactions it was. -/
theorem Update.failed {d d' : Driver} {now : Micros} {actions : List (Action Event)}
    (h : d.Update now actions d') (hfailed : d.CycleFailed (actions.filterMap Action.exchange?)) :
    d'.phase = .waitingForInterval ∧ d'.memory = d.memory := by
  cases h with
  | selectRefused | toldSelectRefused | untold | unread | erroneous | nothingNew =>
    exact ⟨rfl, rfl⟩
  | rested | selected | told | measured =>
    simp_all [CycleFailed, SomeFailed, Exchange.received_ne_wrote]

/-- Only an acknowledged write of the environment takes it away. An update without one, failed or
not, leaves it pending. -/
theorem Update.still_pending {d d' : Driver} {now : Micros} {actions : List (Action Event)}
    (h : d.Update now actions d') {environment : Vector UInt8 4}
    (hpending : d.pendingEnvironment = some environment)
    (huntold : .wrote d.address (Register.environment :: environment.toList) ∉
      actions.filterMap Action.exchange?) :
    d'.pendingEnvironment = some environment := by
  cases h <;> simp_all

/-- A refused write of the environment was one of the pending environment, which stays pending. -/
theorem Update.refused {d d' : Driver} {now : Micros} {actions : List (Action Event)}
    (h : d.Update now actions d') {payload : List UInt8} {fault : Fault}
    (hrefused : .failed d.address (.write (Register.environment :: payload)) fault ∈
      actions.filterMap Action.exchange?) :
    ∃ environment, payload = environment.toList ∧ d'.pendingEnvironment = some environment := by
  cases h with
  | untold hphase hdue environment hpending fault =>
    have hpayload : payload = environment.toList := by simp_all
    exact ⟨environment, hpayload, rfl⟩
  | rested | selected | selectRefused | told | toldSelectRefused | unread | erroneous | nothingNew
  | measured =>
    simp_all [Exchange.failed_ne_wrote, Exchange.failed_ne_received, Register.environment,
      Register.result]

/-- A call keeps the memory, or it is an update that stores a reading with its time; the three
requests that are no updates keep it. -/
theorem Step.change {d d' : Driver} {c : Call} {actions : List (Action Event)}
    (h : d.Step c actions d') : d.memory.Change c.updated d'.memory := by
  cases c with
  | init now =>
    obtain ⟨result, hinit⟩ := h
    cases hinit <;> exact .kept none
  | update now =>
    cases h with
    | measured => exact .renewed now _
    | rested | selected | selectRefused | told | toldSelectRefused | untold | unread | erroneous
    | nothingNew => exact .kept _
  | setEnvironment temperature humidity =>
    obtain ⟨-, rfl⟩ := h
    exact .kept none
  | readBaseline =>
    obtain ⟨result, hread⟩ := h
    cases hread <;> simpa using .kept none
  | writeBaseline baseline =>
    obtain ⟨result, hwritten⟩ := h
    cases hwritten <;> simpa using .kept none

end Driver

end Ccs811

namespace Bme68x

def Call.updated : Call → Option Micros
  | .init _ => none
  | .update now => some now

namespace Driver

/-- The latest reading of the BME68x with its time, which are kept or replaced together. -/
def memory (d : Driver) : Memory Reading :=
  ⟨d.latest, d.timer.lastSuccess⟩

/-- A transaction failed, or no field carried the status bits that the settings require. -/
def CycleFailed (d : Driver) (exchanges : List Exchange) : Prop :=
  SomeFailed exchanges ∨
    ∃ bytes, (∀ field ∈ d.fieldsOf bytes, field.has d.settings.requiredMask = false) ∧
      .fetched d.address Register.fields bytes ∈ exchanges

theorem newest?_eq_none {d : Driver} {fields : List RawField}
    (h : ∀ field ∈ fields, field.has d.settings.requiredMask = false) :
    d.newest? fields = none := by
  have hnone : fields.filter (·.has d.settings.requiredMask) = [] :=
    List.filter_eq_nil_iff.mpr fun field hfield => by simp [h field hfield]
  simp [newest?, hnone]

/-- An update in which something fails, or finds nothing to accept, gives the cycle up and keeps the
memory. -/
theorem Update.failed {d d' : Driver} {now : Micros} {actions : List (Action Event)}
    (h : d.Update now actions d') (hfailed : d.CycleFailed (actions.filterMap Action.exchange?)) :
    d'.phase = .waitingForInterval ∧ d'.memory = d.memory := by
  cases h with
  | startRefused | unread | nothingNew => exact ⟨rfl, rfl⟩
  | rested | started =>
    simp_all [CycleFailed, SomeFailed, Exchange.fetched_ne_wrote]
  | measured stage hphase hdue bytes reading hfields =>
    have hnothing : d.newest? (d.fieldsOf bytes) = none := by
      apply newest?_eq_none
      simpa [CycleFailed, SomeFailed] using hfailed
    simp_all

theorem Step.change {d d' : Driver} {c : Call} {actions : List (Action Event)}
    (h : d.Step c actions d') : d.memory.Change c.updated d'.memory := by
  cases c with
  | init now =>
    obtain ⟨result, hinit⟩ := h
    cases hinit <;> exact .kept none
  | update now =>
    cases h with
    | measured => exact .renewed now _
    | rested | started | startRefused | unread | nothingNew => exact .kept _

end Driver

end Bme68x

variable {β : Type} [Bus β]

/-- Whatever state a driver is in, an update in which something fails ends in the wait for the next
interval with the memory as it was; the HTU21D drops its half, and the CCS811 still owes every
environment whose write was not acknowledged. In every history of a driver only an update that
stores a reading with its own time changes the memory, and no reading is ever lost. -/
theorem failed_cycle_changes_only_the_cycle (bus : β) (now : Micros) :
    (∀ d : Htu21d.Driver,
      let run := (d.update now).run bus
      Htu21d.Driver.CycleFailed run.exchanges →
        run.value.phase = .waitingForInterval ∧ run.value.memory = d.memory ∧
          run.value.pendingTemperature = none) ∧
    (∀ d : Ccs811.Driver,
      let run := (d.update now).run bus
      (d.CycleFailed run.exchanges →
        run.value.phase = .waitingForInterval ∧ run.value.memory = d.memory) ∧
      (∀ environment, d.pendingEnvironment = some environment →
        .wrote d.address (Ccs811.Register.environment :: environment.toList) ∉ run.exchanges →
          run.value.pendingEnvironment = some environment) ∧
      ∀ payload fault,
        .failed d.address (.write (Ccs811.Register.environment :: payload)) fault ∈
          run.exchanges →
        ∃ environment, payload = environment.toList ∧
          run.value.pendingEnvironment = some environment) ∧
    (∀ d : Bme68x.Driver,
      let run := (d.update now).run bus
      d.CycleFailed run.exchanges →
        run.value.phase = .waitingForInterval ∧ run.value.memory = d.memory) ∧
    (∀ interval, Remembers Htu21d.Driver.step Htu21d.Driver.memory Htu21d.Call.updated
      (.start (.ofInterval interval) bus)) ∧
    (∀ address interval mode, Remembers Ccs811.Driver.step Ccs811.Driver.memory
      Ccs811.Call.updated (.start (.create address interval mode) bus)) ∧
    (∀ address interval settings, Remembers Bme68x.Driver.step Bme68x.Driver.memory
      Bme68x.Call.updated (.start (.create address interval settings) bus)) := by
  refine ⟨?_, ?_, ?_, ?_, ?_, ?_⟩
  · intro d run hfailed
    have hupdate : d.Update now run.actions run.value := (d.update_always now).run bus
    exact hupdate.failed hfailed
  · intro d run
    have hupdate : d.Update now run.actions run.value := (d.update_always now).run bus
    refine ⟨hupdate.failed, ?_, ?_⟩
    · intro environment hpending huntold
      exact hupdate.still_pending hpending huntold
    · intro payload fault hrefused
      exact hupdate.refused hrefused
  · intro d run hfailed
    have hupdate : d.Update now run.actions run.value := (d.update_always now).run bus
    exact hupdate.failed hfailed
  · intro interval
    exact .of_step (fun d c => (d.step_always c).mono fun _ _ h => h.change) rfl
  · intro address interval mode
    exact .of_step (fun d c => (d.step_always c).mono fun _ _ h => h.change) rfl
  · intro address interval settings
    exact .of_step (fun d c => (d.step_always c).mono fun _ _ h => h.change) rfl

/-- With nobody on the bus the CCS811 cannot be told its climate, and goes on owing it after the
cycle is given up. -/
theorem failed_cycle_on_empty_bus :
    let d := { Ccs811.Driver.create 0x5A 1000000 .constantPower1s with
      phase := .waitingForInterval, pendingEnvironment := some #v[1, 2, 3, 4] }
    let run := (d.update 2000000).run SimulatedBus.empty
    d.CycleFailed run.exchanges ∧ run.value.phase = .waitingForInterval ∧
      run.value.memory = d.memory ∧ run.value.pendingEnvironment = some #v[1, 2, 3, 4] := by
  intro d run
  have hfailed : d.CycleFailed run.exchanges :=
    .inl ⟨.failed 0x5A (.write [0x05, 1, 2, 3, 4]) .addressNack, List.mem_cons_self, rfl⟩
  obtain ⟨hcycle, -, hrefused⟩ :=
    (failed_cycle_changes_only_the_cycle SimulatedBus.empty 2000000).2.1 d
  obtain ⟨hphase, hmemory⟩ := hcycle hfailed
  obtain ⟨environment, hpayload, hpending⟩ :=
    hrefused [1, 2, 3, 4] .addressNack List.mem_cons_self
  have hsame : environment = #v[1, 2, 3, 4] := Vector.toList_inj.mp hpayload.symm
  exact ⟨hfailed, hphase, hmemory, hsame ▸ hpending⟩

end AirStation
