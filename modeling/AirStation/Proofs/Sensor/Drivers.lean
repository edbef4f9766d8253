import AirStation.Proofs.Sensor.FailedCycle
import AirStation.Proofs.Sensor.Polled

/-!
The three drivers as polled drivers, and everything a call on an attended driver can do. Each driver
says which transfers are its triggers and its reads of data, and the outcomes of its set-up, of its
updates and of its other calls are put together in one list (`Attends`), from which the proofs about
histories go on case by case.

The transfers are recognised by what goes over the bus, and not by where in the driver they are
sent. A read of data is every bare read for two of the drivers, and every read that begins at the
fields for the BME68x.
-/

namespace AirStation

namespace Htu21d

def Call.initialised : Call → Option Micros
  | .init now => some now
  | .update _ => none

namespace Driver

/-- The HTU21D: each of its two commands is a trigger, and every bare read is one of data. -/
def polled : Polled Driver Call Stage where
  init := init
  step := step
  initialised := Call.initialised
  updated := Call.updated
  rhythm d := ⟨d.timer.interval, Stage.conversionTime, d.phase, d.timer.cycleStarted,
    d.timer.stateEntered⟩
  triggers stage transfer := transfer = .write [stage.command]
  reads transfer := ∃ count, transfer = .read count

/-- What a call on an attended HTU21D can do, with the answer of a set-up kept beside the driver. -/
inductive Attends (s : Attended Driver) :
    Call → List (Action Event) → Attended Driver → Prop where
  | init {now actions answer d'} (h : s.driver.Init now actions (answer, d')) :
    Attends s (.init now) actions ⟨d', some answer⟩
  | update {now actions d'} (h : s.driver.Update now actions d') :
    Attends s (.update now) actions ⟨d', s.answer⟩

theorem attend_outcomes (s : Attended Driver) (c : Call) :
    (polled.attend s c).Always (Attends s c) := by
  apply Polled.attend_always
  · intro now hcall
    cases c with
    | init time =>
      obtain rfl : time = now := Option.some.inj hcall
      exact (s.driver.init_always time).mono fun _ _ h => .init h
    | update => nomatch hcall
  · intro hcall
    cases c with
    | init => nomatch hcall
    | update now => exact (s.driver.update_always now).mono fun _ _ h => .update h

end Driver

end Htu21d

namespace Ccs811

def Call.initialised : Call → Option Micros
  | .init now => some now
  | _ => none

namespace Driver

/-- The CCS811: the write that points to the result is the trigger, and every bare read is one of
data. There is no conversion time. -/
def polled : Polled Driver Call Stage where
  init := init
  step := step
  initialised := Call.initialised
  updated := Call.updated
  rhythm d := ⟨d.timer.interval, fun _ => resultWait, d.phase, d.timer.cycleStarted,
    d.timer.stateEntered⟩
  triggers _ transfer := transfer = .write [Register.result]
  reads transfer := ∃ count, transfer = .read count

/-- What a call on an attended CCS811 can do. Only the set-up leaves an answer. -/
inductive Attends (s : Attended Driver) :
    Call → List (Action Event) → Attended Driver → Prop where
  | init {now actions answer d'} (h : s.driver.Init now actions (answer, d')) :
    Attends s (.init now) actions ⟨d', some answer⟩
  | update {now actions d'} (h : s.driver.Update now actions d') :
    Attends s (.update now) actions ⟨d', s.answer⟩
  | setEnvironment (temperature humidity : Float32) :
    Attends s (.setEnvironment temperature humidity) []
      ⟨s.driver.setEnvironment temperature humidity, s.answer⟩
  | readBaseline {actions result d'} (h : s.driver.ReadBaseline actions (result, d')) :
    Attends s .readBaseline actions ⟨d', s.answer⟩
  | writeBaseline {baseline actions result d'}
      (h : s.driver.WriteBaseline baseline actions (result, d')) :
    Attends s (.writeBaseline baseline) actions ⟨d', s.answer⟩

theorem attend_outcomes (s : Attended Driver) (c : Call) :
    (polled.attend s c).Always (Attends s c) := by
  apply Polled.attend_always
  · intro now hcall
    cases c with
    | init time =>
      obtain rfl : time = now := Option.some.inj hcall
      exact (s.driver.init_always time).mono fun _ _ h => .init h
    | update | setEnvironment | readBaseline | writeBaseline => nomatch hcall
  · intro hcall
    cases c with
    | init => nomatch hcall
    | update now => exact (s.driver.update_always now).mono fun _ _ h => .update h
    | setEnvironment temperature humidity => exact .setEnvironment temperature humidity
    | readBaseline =>
      apply s.driver.readBaseline_always.snd.mono
      rintro actions d' ⟨result, h⟩
      exact .readBaseline h
    | writeBaseline baseline =>
      apply (s.driver.writeBaseline_always baseline).snd.mono
      rintro actions d' ⟨result, h⟩
      exact .writeBaseline h

end Driver

end Ccs811

namespace Bme68x

def Call.initialised : Call → Option Micros
  | .init now => some now
  | .update _ => none

namespace Driver

/-- The BME68x: a write of a mode other than sleep is what starts a measurement, and every read that
begins at the fields is one of data. How long it takes follows from the settings. -/
def polled : Polled Driver Call Stage where
  init := init
  step := step
  initialised := Call.initialised
  updated := Call.updated
  rhythm d := ⟨d.timer.interval, fun _ => d.settings.conversionTime, d.phase,
    d.timer.cycleStarted, d.timer.stateEntered⟩
  triggers _ transfer := ∃ value, transfer = .write [Register.measurementControl, value] ∧
    value &&& 0x03 ≠ 0
  reads transfer := ∃ count, transfer = .writeRead [Register.fields] count

/-- What a call on an attended BME68x can do. Of the set-up it is enough to know the kind of its
transactions. -/
inductive Attends (s : Attended Driver) :
    Call → List (Action Event) → Attended Driver → Prop where
  | init {now actions answer d'} (h : s.driver.Init now (answer, d'))
      (hactions : ∀ action ∈ actions, SetsUp s.driver.address action) :
    Attends s (.init now) actions ⟨d', some answer⟩
  | update {now actions d'} (h : s.driver.Update now actions d') :
    Attends s (.update now) actions ⟨d', s.answer⟩

theorem attend_outcomes (s : Attended Driver) (c : Call) :
    (polled.attend s c).Always (Attends s c) := by
  apply Polled.attend_always
  · intro now hcall
    cases c with
    | init time =>
      obtain rfl : time = now := Option.some.inj hcall
      have hactions := (BusM.does_iff_always _ _).mp (s.driver.init_setsUp time)
      exact ((s.driver.init_always time).and hactions).mono fun _ _ h => .init h.1 h.2
    | update => nomatch hcall
  · intro hcall
    cases c with
    | init => nomatch hcall
    | update now => exact (s.driver.update_always now).mono fun _ _ h => .update h

end Driver

end Bme68x

end AirStation
