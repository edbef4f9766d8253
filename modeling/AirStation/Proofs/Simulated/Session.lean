import AirStation.Proofs.Bus.History
import AirStation.Proofs.Simulated.Attached
import AirStation.Simulated.Bus

/-!
Sessions: a system runs over the simulated bus, and between its calls things happen to the bus.
Failures are injected, addresses come and go, and the devices get something new to measure. Calls
and disturbances may alternate in any way, and the session records both.

`Session.attached_invariant` follows the system together with one device. It takes the list of
outcomes of a call and the genuine answers of the device, and turns them into a property of the
whole session; every theorem about a driver and its device is proved with it.
-/

namespace AirStation

/-- What can happen to the bus from outside, between two calls: faults, and something new to
measure. -/
inductive Disturbance where
  | failNext (address : UInt8)
  | setOffline (address : UInt8) (offline : Bool)
  | setTemperature (celsius : Float32)
  | setHumidity (percent : Float32)
  | setCorrupt (corrupt : Bool)
  | publish (eco2 tvoc : UInt16)
  | raiseError (errorId : UInt8)
  | stage (fields : List Bme68x.SimulatedField)

namespace Htu21d.Model

def disturbed (m : Model) : Disturbance → Model
  | .setTemperature celsius => m.setTemperature celsius
  | .setHumidity percent => m.setHumidity percent
  | .setCorrupt corrupt => { m with corrupt }
  | _ => m

end Htu21d.Model

namespace Ccs811.Model

def disturbed (m : Model) : Disturbance → Model
  | .publish eco2 tvoc => m.publish eco2 tvoc
  | .raiseError errorId => m.raiseError errorId
  | _ => m

end Ccs811.Model

namespace Bme68x.Model

def disturbed (m : Model) : Disturbance → Model
  | .stage fields => m.stage fields
  | _ => m

end Bme68x.Model

namespace SimulatedBus

/-- Every device on the bus takes from a disturbance what is meant for it, and ignores the rest. -/
def disturbDevices (b : SimulatedBus) (d : Disturbance) : SimulatedBus :=
  { b with
    htu21d := b.htu21d.map (·.disturbed d)
    ccs811 := b.ccs811.map (·.disturbed d)
    bme68x := b.bme68x.map (·.disturbed d) }

/-- Faults go into the lists of the bus, and everything else goes to the devices. -/
def disturb (b : SimulatedBus) : Disturbance → SimulatedBus
  | .failNext address => b.failNext address
  | .setOffline address offline => b.setOffline address offline
  | d => b.disturbDevices d

end SimulatedBus

/-- A call of the system, or something that happens to the bus. -/
inductive Turn (κ : Type) where
  | call (c : κ)
  | disturb (d : Disturbance)

/-- A turn that has been taken. A call is recorded with the states around it and with what it
did. -/
inductive Happening (ε σ κ : Type) where
  | called (episode : Episode ε σ κ)
  | disturbed (d : Disturbance)

/-- The system, its bus, and what has happened so far, in order. -/
structure Session (ε σ κ : Type) where
  state : σ
  bus : SimulatedBus
  past : List (Happening ε σ κ)

namespace Session

variable {ε σ κ : Type} (step : σ → κ → BusM ε σ)

def start (state : σ) (bus : SimulatedBus) : Session ε σ κ :=
  ⟨state, bus, []⟩

/-- What a call would be if it came next, with the state before it and after it. -/
def episode (s : Session ε σ κ) (c : κ) : Episode ε σ κ :=
  let run := (step s.state c).run s.bus
  ⟨s.state, c, run.actions, run.value⟩

def take (s : Session ε σ κ) : Turn κ → Session ε σ κ
  | .call c =>
    let run := (step s.state c).run s.bus
    ⟨run.value, run.bus, s.past ++ [.called (s.episode step c)]⟩
  | .disturb d => ⟨s.state, s.bus.disturb d, s.past ++ [.disturbed d]⟩

def play (s : Session ε σ κ) (turns : List (Turn κ)) : Session ε σ κ :=
  turns.foldl (take step) s

end Session

/-- A port at which the device learns of a disturbance what is meant for it. -/
structure Wired {δ : Type} [Responder δ] (address : UInt8) (At : SimulatedBus → δ → Prop)
    (disturbed : δ → Disturbance → δ) : Prop extends Port address At where
  disturb : ∀ bus device d, At bus device → At (bus.disturb d) (disturbed device d)

namespace Session

variable {ε σ κ δ : Type} [Responder δ] {address : UInt8} {At : SimulatedBus → δ → Prop}
  {disturbed : δ → Disturbance → δ} {step : σ → κ → BusM ε σ}

theorem episode_genuine (wired : Wired address At disturbed) {s : Session ε σ κ} {device : δ}
    (hat : At s.bus device) (c : κ) :
    AllGenuine address device (s.episode step c).exchanges :=
  (wired.run (step s.state c) hat).1

/-- A property of the past, the system and its device holds throughout when it holds at the start
and every turn that is allowed keeps it. Of a call no more is known than its outcome and that the
answers of the device are genuine. -/
theorem attached_invariant (wired : Wired address At disturbed)
    {R : σ → κ → List (Action ε) → σ → Prop} (hR : ∀ s c, (step s c).Always (R s c))
    (allowed : Turn κ → Prop) (Inv : List (Happening ε σ κ) → σ → δ → Prop)
    (hcall : ∀ past s c actions s' device, allowed (.call c) → Inv past s device →
      R s c actions s' → AllGenuine address device (actions.filterMap Action.exchange?) →
      Inv (past ++ [.called ⟨s, c, actions, s'⟩]) s'
        ((actions.filterMap Action.exchange?).foldl (served address) device))
    (hdisturb : ∀ past s d device, allowed (.disturb d) → Inv past s device →
      Inv (past ++ [.disturbed d]) s (disturbed device d))
    {s : Session ε σ κ} {device : δ} (hat : At s.bus device)
    (hstart : Inv s.past s.state device) {turns : List (Turn κ)} (hturns : ∀ t ∈ turns, allowed t) :
    ∃ device', At (s.play step turns).bus device' ∧
      Inv (s.play step turns).past (s.play step turns).state device' := by
  induction turns generalizing s device with
  | nil => exact ⟨device, hat, hstart⟩
  | cons t rest ih =>
    obtain ⟨hallowed, hrest⟩ := List.forall_mem_cons.mp hturns
    cases t with
    | call c =>
      obtain ⟨hgenuine, hafter⟩ := wired.run (step s.state c) hat
      have houtcome := (hR s.state c).run s.bus
      exact ih hafter (hcall _ _ _ _ _ _ hallowed hstart houtcome hgenuine) hrest
    | disturb d =>
      exact ih (wired.disturb _ _ d hat) (hdisturb _ _ d _ hallowed hstart) hrest

end Session

end AirStation
