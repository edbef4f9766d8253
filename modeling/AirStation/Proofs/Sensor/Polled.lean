import AirStation.Proofs.Bus.Timeline
import AirStation.Sensor.Event

/-!
What the three drivers have in common. A `Polled` names the parts of a driver that its timing is
about: how it is set up and called, which transfers start a conversion and which read its data, and
the `Rhythm` it keeps. Its histories remember what the latest set-up answered.

The drivers differ in what they send and in how many conversions a cycle has. They agree in waiting:
an interval between cycles and a conversion time after each trigger, both measured from instants
that the driver notes. What can be said in these words is proved once, for any `Polled` whose calls
keep its rhythm.
-/

namespace AirStation

/-- The part of a driver that its timing depends on: what it waits for, how long, and from which
instants it counts. -/
structure Rhythm (τ : Type) where
  interval : Micros
  conversionTime : τ → Micros
  phase : Phase τ
  cycleStarted : Micros
  stateEntered : Micros

/-- Whether an update at this time has something to do. If not, the gate is closed, and an update
does nothing at all. -/
def Rhythm.isOpen {τ : Type} (r : Rhythm τ) (now : Micros) : Bool :=
  match r.phase with
  | .idle => false
  | .waitingForInterval => r.interval ≤ now - r.cycleStarted
  | .waitingForConversion stage => r.conversionTime stage ≤ now - r.stateEntered

/-- A driver with the answer to its latest set-up, if there was one. The driver itself forgets
it. -/
structure Attended (δ : Type) where
  driver : δ
  answer : Option (Except SensorError Unit)

/-- A driver of type `δ` with calls `κ` and conversion stages `τ`. It says which of the calls are
set-ups and updates, and which transfers are triggers and reads of data. -/
structure Polled (δ κ τ : Type) where
  init : δ → Micros → SensorM (Except SensorError Unit × δ)
  /-- Every call that is no set-up. -/
  step : δ → κ → SensorM δ
  initialised : κ → Option Micros
  updated : κ → Option Micros
  rhythm : δ → Rhythm τ
  triggers : τ → Transfer → Prop
  reads : Transfer → Prop

namespace Polled

variable {β δ κ τ : Type} [Bus β] (p : Polled δ κ τ)

/-- One call on an attended driver. A set-up leaves its answer; any other call leaves the answer as
it was. -/
def attend (s : Attended δ) (c : κ) : SensorM (Attended δ) :=
  match p.initialised c with
  | some now => do
    let (answer, driver) ← p.init s.driver now
    return ⟨driver, some answer⟩
  | none => do
    return { s with driver := ← p.step s.driver c }

/-- The calls of a list on a new driver and a bus, recorded. -/
def history (start : δ) (bus : β) (calls : List κ) : History β Event (Attended δ) κ :=
  (History.start ⟨start, none⟩ bus).play p.attend calls

/-- A set-up at this time that succeeded, as the answer beside the driver says. -/
def Succeeds (e : Episode Event (Attended δ) κ) (now : Micros) : Prop :=
  p.initialised e.call = some now ∧ e.after.answer = some (.ok ())

/-- A set-up that failed, at whatever time, as the answer beside the driver says. -/
def Fails (e : Episode Event (Attended δ) κ) : Prop :=
  (p.initialised e.call).isSome ∧ e.after.answer ≠ some (.ok ())

variable {p}

/-- The outcomes of a call are those of the set-up or of the step that it is. -/
theorem attend_always {s : Attended δ} {c : κ}
    {post : List (Action Event) → Attended δ → Prop}
    (hinit : ∀ now, p.initialised c = some now → (p.init s.driver now).Always
      fun actions outcome => post actions ⟨outcome.2, some outcome.1⟩)
    (hstep : p.initialised c = none →
      (p.step s.driver c).Always fun actions driver => post actions { s with driver }) :
    (p.attend s c).Always post := by
  unfold attend
  cases hcall : p.initialised c with
  | some now =>
    apply (hinit now hcall).bind
    intro actions outcome hpost
    simpa using hpost
  | none =>
    apply (hstep hcall).bind
    intro actions driver hpost
    simpa using hpost

end Polled

end AirStation
