import AirStation.Bus.Basic

/-!
Computations over a bus. A `BusM` is the tree of everything a driver may do: exchange a transfer,
pause, report an event, stop with a value. It holds no bus; `run` plays it against one and records
each action in order. What a driver does on every bus is therefore a statement about one tree, and a
statement about a run is an induction on that tree.

A pause takes no time here. It is recorded like the other actions, and the clock is handed to a
computation from outside.
-/

namespace AirStation

/-- What is done next depends on the answers so far, and on nothing else of the bus. -/
inductive BusM (ε α : Type) where
  | done (value : α)
  | exchange (address : UInt8) (transfer : Transfer) (next : Response transfer → BusM ε α)
  | pause (milliseconds : Nat) (next : BusM ε α)
  | report (event : ε) (next : BusM ε α)

/-- One transaction with its outcome, as it is recorded. The response has as many bytes as the
transfer asks for, or a fault in their place. -/
structure Exchange where
  address : UInt8
  transfer : Transfer
  response : Response transfer

def Exchange.acknowledged (e : Exchange) : Bool :=
  e.response.toBool

inductive Action (ε : Type) where
  | exchanged (exchange : Exchange)
  | paused (milliseconds : Nat)
  | reported (event : ε)

namespace Action

variable {ε : Type}

def exchange? : Action ε → Option Exchange
  | .exchanged exchange => some exchange
  | _ => none

def event? : Action ε → Option ε
  | .reported event => some event
  | _ => none

def milliseconds : Action ε → Nat
  | .paused milliseconds => milliseconds
  | _ => 0

end Action

/-- How a computation ended, the bus it left behind and what it did on the way, from the first
action to the last. -/
structure Run (β ε α : Type) where
  value : α
  bus : β
  actions : List (Action ε)

namespace Run

variable {β ε α : Type}

def exchanges (r : Run β ε α) : List Exchange :=
  r.actions.filterMap Action.exchange?

def events (r : Run β ε α) : List ε :=
  r.actions.filterMap Action.event?

def milliseconds (r : Run β ε α) : Nat :=
  r.actions.foldr (fun action total => action.milliseconds + total) 0

end Run

namespace BusM

variable {β ε α γ : Type}

/-- The second computation goes in wherever the first one stops. -/
def bind : BusM ε α → (α → BusM ε γ) → BusM ε γ
  | .done value, f => f value
  | .exchange address transfer next, f => .exchange address transfer fun r => (next r).bind f
  | .pause milliseconds next, f => .pause milliseconds (next.bind f)
  | .report event next, f => .report event (next.bind f)

instance : Monad (BusM ε) where
  pure := .done
  bind := bind

theorem bind_done (m : BusM ε α) : m.bind .done = m := by
  induction m <;> simp_all [bind]

theorem bind_bind {δ : Type} (m : BusM ε α) (f : α → BusM ε γ) (g : γ → BusM ε δ) :
    (m.bind f).bind g = m.bind fun value => (f value).bind g := by
  induction m <;> simp_all [bind]

instance : LawfulMonad (BusM ε) :=
  LawfulMonad.mk' (BusM ε) bind_done (fun _ _ => rfl) bind_bind

/-- Says something without touching the bus. What becomes of it is for others to decide. -/
def log (event : ε) : BusM ε Unit :=
  .report event (.done ())

def logAll (events : List ε) : BusM ε Unit :=
  events.foldr .report (.done ())

def wait (milliseconds : Nat) : BusM ε Unit :=
  .pause milliseconds (.done ())

/-- Plays the computation against a bus, which changes with each exchange, and records the
actions. -/
def run [Bus β] : BusM ε α → β → Run β ε α
  | .done value, bus => ⟨value, bus, []⟩
  | .exchange address transfer next, bus =>
    let answer := Bus.transact bus address transfer
    let rest := (next answer.1).run answer.2
    { rest with actions := .exchanged ⟨address, transfer, answer.1⟩ :: rest.actions }
  | .pause milliseconds next, bus =>
    let rest := next.run bus
    { rest with actions := .paused milliseconds :: rest.actions }
  | .report event next, bus =>
    let rest := next.run bus
    { rest with actions := .reported event :: rest.actions }

/-- The second part meets the bus that the first one leaves, and its actions follow. -/
theorem run_bind [Bus β] (m : BusM ε α) (f : α → BusM ε γ) (bus : β) :
    (m >>= f).run bus =
      let first := m.run bus
      let second := (f first.value).run first.bus
      { second with actions := first.actions ++ second.actions } := by
  change (m.bind f).run bus = _
  induction m generalizing bus <;> simp_all [bind, run]

theorem run_map [Bus β] (f : α → γ) (m : BusM ε α) (bus : β) :
    (f <$> m).run bus = ⟨f (m.run bus).value, (m.run bus).bus, (m.run bus).actions⟩ := by
  rw [map_eq_pure_bind, run_bind]
  simp [pure, run]

end BusM

end AirStation
