import AirStation.Proofs.Htu21d.Steps

/-!
The clock of the HTU21D. When the calls come in the order of their times, a reading is stored
strictly later than the one before it: between the two lies at least a conversion time. The time of
the latest reading therefore tells whether it is a new one, which is what the station goes by when
it hands a climate over.
-/

namespace AirStation.Htu21d.Driver

/-- The last success is one of the past times, and a conversion under way began no earlier than
it. -/
structure Clocked (times : List Micros) (d : Driver) : Prop where
  measured : ∀ t, d.timer.lastSuccess = some t → t ∈ times
  converting : ∀ stage t, d.phase = .waitingForConversion stage →
    d.timer.lastSuccess = some t → t ≤ d.timer.stateEntered

variable {d d' : Driver} {times : List Micros} {now : Micros} {actions : List (Action Event)}

theorem Clocked.append (h : d.Clocked times) (more : List Micros) :
    d.Clocked (times ++ more) :=
  ⟨fun t ht => List.mem_append_left _ (h.measured t ht), h.converting⟩

/-- A driver that waits for its interval only has to keep its last success. -/
theorem Clocked.waiting (h : d.Clocked times)
    (hsuccess : d'.timer.lastSuccess = d.timer.lastSuccess)
    (hphase : d'.phase = .waitingForInterval) : d'.Clocked times where
  measured t ht := h.measured t (hsuccess.symm.trans ht)
  converting stage t hstage := by simp [hphase] at hstage

/-- A conversion that starts now starts no earlier than anything that has happened. -/
theorem Clocked.entered (h : d.Clocked times) (hnow : ∀ t ∈ times, t ≤ now)
    (hsuccess : d'.timer.lastSuccess = d.timer.lastSuccess)
    (hentered : d'.timer.stateEntered = now) : d'.Clocked times where
  measured t ht := h.measured t (hsuccess.symm.trans ht)
  converting stage t _ ht := by
    rw [hentered]
    exact hnow t (h.measured t (hsuccess.symm.trans ht))

/-- A set-up keeps what is known of the times, and is not a time at which anything is measured. -/
theorem Clocked.init {result : Except SensorError Unit} (h : d.Clocked times)
    (hinit : d.Init now actions (result, d')) : d'.Clocked times := by
  cases hinit with
  | refused => exact h
  | ready => exact h.waiting rfl rfl

/-- An update adds its own time to the past, and a reading that it stores carries this time. -/
theorem Clocked.update (h : d.Clocked times) (hnow : ∀ t ∈ times, t ≤ now)
    (hupdate : d.Update now actions d') : d'.Clocked (times ++ [now]) := by
  cases hupdate with
  | rested => exact h.append _
  | started | halfway =>
    apply Clocked.append
    exact h.entered hnow rfl rfl
  | startRefused | unread | spoilt | halfwayRefused | dropped =>
    apply Clocked.append
    exact h.waiting rfl rfl
  | measured =>
    refine ⟨fun t ht => ?_, by simp⟩
    obtain rfl : now = t := Option.some.inj ht
    simp

theorem conversionTime_pos (stage : Stage) : 0 < stage.conversionTime := by
  cases stage <;> decide

/-- When a conversion is due, the last success lies strictly in the past, because the conversion has
taken its time since. -/
theorem Clocked.lastSuccess_ne (h : d.Clocked times) {stage : Stage}
    (hphase : d.phase = .waitingForConversion stage) (hdue : d.due now = true) :
    d.timer.lastSuccess ≠ some now := by
  intro hsuccess
  have hentered : now ≤ d.timer.stateEntered := h.converting stage now hphase hsuccess
  have hwaited : stage.conversionTime ≤ now - d.timer.stateEntered := by
    simpa [due, hphase, PollTimer.waited] using hdue
  rw [Nat.sub_eq_zero_of_le hentered] at hwaited
  exact absurd (conversionTime_pos stage) (Nat.not_lt.mpr hwaited)

end AirStation.Htu21d.Driver
