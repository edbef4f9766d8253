import AirStation.Proofs.Bus.History
import AirStation.Sensor.Event

/-!
What a sensor remembers from one cycle to the next: its latest reading and when it was measured.
`Remembers` collects what holds of the memory in every history of a driver, and `Remembers.of_step`
derives all of it from what one call may do to the memory.

A reading is never taken back. It is kept with its time until an update puts a newer one in its
place, which is why a failed cycle, a new set-up or a request for the baseline leaves the station
with what it had.
-/

namespace AirStation

/-- The latest reading of a sensor and the time of the update that has stored it, if there has been
one. -/
structure Memory (ρ : Type) where
  latest : Option ρ
  lastSuccess : Option Micros

namespace Memory

variable {ρ : Type}

/-- There is a reading exactly when there is a time at which it was measured. -/
def Coherent (m : Memory ρ) : Prop :=
  m.latest.isSome = m.lastSuccess.isSome

/-- What a call may do to a memory: keep it, or store a reading with the time of the update that the
call is. Calls that are no updates have no time, and can only keep it. -/
inductive Change (m : Memory ρ) : Option Micros → Memory ρ → Prop where
  | kept (updated : Option Micros) : Change m updated m
  | renewed (now : Micros) (reading : ρ) : Change m (some now) ⟨some reading, some now⟩

theorem Change.coherent {m m' : Memory ρ} {updated : Option Micros}
    (h : m.Change updated m') (hm : m.Coherent) : m'.Coherent := by
  cases h with
  | kept => exact hm
  | renewed => rfl

theorem Change.isSome {m m' : Memory ρ} {updated : Option Micros}
    (h : m.Change updated m') (hm : m.latest.isSome) : m'.latest.isSome := by
  cases h with
  | kept => exact hm
  | renewed => rfl

/-- A call that is no update leaves the memory as it is. -/
theorem Change.eq_of_none {m m' : Memory ρ} (h : m.Change none m') : m' = m := by
  cases h
  rfl

end Memory

variable {β σ κ ρ : Type} [Bus β]

/-- What holds of the memory of a driver in all its histories from a given start, over any bus and
for calls in any order. -/
structure Remembers (step : σ → κ → SensorM σ) (memory : σ → Memory ρ)
    (updated : κ → Option Micros) (start : History β Event σ κ) : Prop where
  /-- Every call keeps the memory, or it is an update that stores a reading with its time. -/
  change : ∀ calls c, (memory (start.play step calls).state).Change (updated c)
    (memory (start.play step (calls ++ [c])).state)
  coherent : ∀ calls, (memory (start.play step calls).state).Coherent
  /-- A reading is only ever replaced by another. -/
  lasting : ∀ calls more, (memory (start.play step calls).state).latest.isSome →
    (memory (start.play step (calls ++ more)).state).latest.isSome

/-- It is enough to know what single calls may do to the memory. The rest is induction on the
calls. -/
theorem Remembers.of_step {step : σ → κ → SensorM σ} {memory : σ → Memory ρ}
    {updated : κ → Option Micros}
    (hstep : ∀ s c, (step s c).Always fun _ s' => (memory s).Change (updated c) (memory s'))
    {start : History β Event σ κ} (hstart : (memory start.state).Coherent) :
    Remembers step memory updated start where
  change calls c := by
    rw [History.play_concat]
    exact (hstep _ c).run _
  coherent calls :=
    History.invariant (fun _ s => (memory s).Coherent) hstep
      (fun _ _ _ _ _ hcoherent hchange => hchange.coherent hcoherent) hstart calls
  lasting calls more hsome := by
    rw [History.play_append]
    exact History.invariant (fun _ s => (memory s).latest.isSome) hstep
      (fun _ _ _ _ _ hlatest hchange => hchange.isSome hlatest) hsome more

end AirStation
