/-!
Timekeeping of a polled sensor. Waiting is a comparison: the sensor keeps three instants and each
poll measures the clock against them. A clock that stands behind an instant measures zero, so it
never opens a gate early.

The clock is not part of a sensor. Every call is given the time, so the same sensor runs on a real
clock and in a simulation, and a poll that comes late only finds its gate open for longer.
-/

namespace AirStation

/-- Microseconds, as an instant since the start of the clock or as a duration. -/
abbrev Micros : Type := Nat

namespace Micros

/-- Exact for every number of milliseconds. A clock that keeps its microseconds in a 64-bit word
runs out at `2^64` of them; instants beyond, after half a million years, are not modelled. -/
def ofMillis (milliseconds : Nat) : Micros :=
  milliseconds * 1000

def toMillis (t : Micros) : Nat :=
  t / 1000

end Micros

/-- The interval between two cycles, and when the present one and its present state began. The last
success is kept for those who want to know how old a reading is. -/
structure PollTimer where
  interval : Micros
  cycleStarted : Micros
  stateEntered : Micros
  lastSuccess : Option Micros
deriving DecidableEq, Repr

namespace PollTimer

def ofInterval (interval : Micros) : PollTimer :=
  ⟨interval, 0, 0, none⟩

def intervalElapsed (t : PollTimer) (now : Micros) : Bool :=
  t.interval ≤ now - t.cycleStarted

/-- A new cycle also enters a new state, at the same instant. -/
def beginCycle (t : PollTimer) (now : Micros) : PollTimer :=
  { t with cycleStarted := now, stateEntered := now }

def enterState (t : PollTimer) (now : Micros) : PollTimer :=
  { t with stateEntered := now }

/-- Whether the present state has lasted as long as it has to. -/
def waited (t : PollTimer) (now wait : Micros) : Bool :=
  wait ≤ now - t.stateEntered

def recordSuccess (t : PollTimer) (now : Micros) : PollTimer :=
  { t with lastSuccess := some now }

end PollTimer

/-- Where a sensor's cycle rests between two polls. Sending a trigger and reading a result are no
resting places: both happen inside the poll that leaves a waiting phase. -/
inductive Phase (σ : Type) where
  /-- Not set up; a poll does nothing. -/
  | idle
  | waitingForInterval
  /-- A trigger is out and its conversion time runs. -/
  | waitingForConversion (stage : σ)
deriving DecidableEq, Repr

end AirStation
