import AirStation.Proofs.Htu21d.Steps
import AirStation.Simulated.Bus

/-!
The HTU21D never pairs halves of different cycles. `Paired` ties the half-finished reading to the
traffic of the cycle under way; every call keeps it, whatever the bus answers and whenever the call
comes, and a stored reading is read off it (`reading_never_torn`).

The traffic of a cycle is cut out of the record by where the driver leaves its wait for the
interval. A failed half, a refused trigger or a set-up in the middle end the cycle without a
reading, so whatever is paired has come from the two conversions of one cycle, in their order.
-/

namespace AirStation.Htu21d.Driver

variable {β : Type} [Bus β]

/-- The calls of a list on a new HTU21D driver, over any bus. -/
def history (interval : Micros) (bus : β) (calls : List Call) : History β Event Driver Call :=
  (History.start (ofInterval interval) bus).play step calls

/-- A call that begins a cycle: an update when the driver waits for its interval and it is over. -/
def beginsCycle (e : Episode Event Driver Call) : Bool :=
  match e.call with
  | .init _ => false
  | .update now => e.before.phase == .waitingForInterval && e.before.due now

/-- The acknowledged transactions since the last cycle began, in their order. -/
def cycleExchanges (past : List (Episode Event Driver Call)) : List Exchange :=
  (sinceLast beginsCycle past).flatMap (·.acknowledged)

/-- A call after which the latest reading or its time is another, or which reports a reading.
Nothing that could be taken for a new reading is left out. -/
def Renews (e : Episode Event Driver Call) : Prop :=
  e.after.latest ≠ e.before.latest ∨ e.after.timer.lastSuccess ≠ e.before.timer.lastSuccess ∨
    ∃ reading, .reported (.htu21dMeasured reading) ∈ e.actions

/-- How far the cycle under way has come, in its traffic and in the half it has gained: one trigger,
or both triggers with the temperature read between them. -/
structure Paired (past : List (Episode Event Driver Call)) (d : Driver) : Prop where
  temperature : d.phase = .waitingForConversion .temperature →
    cycleExchanges past = [.wrote address [Stage.temperature.command]]
  humidity : d.phase = .waitingForConversion .humidity → ∃ bytes, Intact bytes ∧
    d.pendingTemperature = some (temperatureOfRaw (wordOf bytes)) ∧
    cycleExchanges past =
      [.wrote address [Stage.temperature.command], .received address bytes,
        .wrote address [Stage.humidity.command]]

theorem cycleExchanges_concat (past : List (Episode Event Driver Call))
    (e : Episode Event Driver Call) :
    cycleExchanges (past ++ [e]) =
      if beginsCycle e then e.acknowledged else cycleExchanges past ++ e.acknowledged := by
  unfold cycleExchanges
  rw [sinceLast_concat]
  split <;> simp

/-- A call that adds nothing to the traffic of the cycle keeps what is known of it. -/
theorem Paired.of_eq {past past' : List (Episode Event Driver Call)} {d : Driver}
    (h : Paired past d) (hsame : cycleExchanges past' = cycleExchanges past) :
    Paired past' d where
  temperature hphase := by
    rw [hsame]
    exact h.temperature hphase
  humidity hphase := by
    rw [hsame]
    exact h.humidity hphase

/-- A set-up that succeeds leaves no conversion to wait for, and one that fails leaves everything as
it was. -/
theorem Paired.init {past : List (Episode Event Driver Call)} {d d' : Driver} {now : Micros}
    {actions : List (Action Event)} {result : Except SensorError Unit} (h : Paired past d)
    (hinit : d.Init now actions (result, d')) :
    Paired (past ++ [⟨d, .init now, actions, d'⟩]) d' := by
  cases hinit with
  | refused fault =>
    apply h.of_eq
    simp [cycleExchanges_concat, beginsCycle, Episode.acknowledged, Episode.exchanges]
  | ready => exact ⟨by simp, by simp⟩

/-- Every outcome of an update keeps the record and the half together. -/
theorem Paired.update {past : List (Episode Event Driver Call)} {d d' : Driver} {now : Micros}
    {actions : List (Action Event)} (h : Paired past d) (hupdate : d.Update now actions d') :
    Paired (past ++ [⟨d, .update now, actions, d'⟩]) d' := by
  cases hupdate with
  | rested hdue =>
    apply h.of_eq
    simp [cycleExchanges_concat, beginsCycle, hdue, Episode.acknowledged, Episode.exchanges]
  | started hphase hdue =>
    refine ⟨fun _ => ?_, by simp⟩
    simp [cycleExchanges_concat, beginsCycle, hphase, hdue, Episode.acknowledged,
      Episode.exchanges]
  | halfway hphase hdue bytes hbytes =>
    refine ⟨by simp, fun _ => ⟨bytes, hbytes, rfl, ?_⟩⟩
    simp [cycleExchanges_concat, beginsCycle, hphase, h.temperature hphase,
      Episode.acknowledged, Episode.exchanges]
  | startRefused | unread | spoilt | halfwayRefused | measured | dropped =>
    exact ⟨by simp, by simp⟩

theorem Init.not_renews {d d' : Driver} {now : Micros} {actions : List (Action Event)}
    {result : Except SensorError Unit} (hinit : d.Init now actions (result, d')) :
    ¬ Renews ⟨d, .init now, actions, d'⟩ := by
  cases hinit with
  | refused fault => simp [Renews]
  | ready => simp [Renews, PollTimer.beginCycle]

theorem Init.not_received {d : Driver} {now : Micros} {actions : List (Action Event)}
    {outcome : Except SensorError Unit × Driver} (hinit : d.Init now actions outcome)
    (bytes : Vector UInt8 3) :
    .received address bytes ∉ actions.filterMap Action.exchange? := by
  cases hinit with
  | refused fault => simp [(Exchange.failed_ne_received _ _ _ _ _).symm]
  | ready => simp [Exchange.received_ne_wrote]

/-- An update renews the reading only at the end of a cycle in which nothing went wrong, and the
reading is made of the two answers of this cycle. -/
theorem Paired.whole {past : List (Episode Event Driver Call)} {d d' : Driver} {now : Micros}
    {actions : List (Action Event)} (h : Paired past d) (hupdate : d.Update now actions d')
    (hrenews : Renews ⟨d, .update now, actions, d'⟩) :
    ∃ first second, Intact first ∧ Intact second ∧
      cycleExchanges (past ++ [⟨d, .update now, actions, d'⟩]) =
        [.wrote address [Stage.temperature.command], .received address first,
          .wrote address [Stage.humidity.command], .received address second] ∧
      actions.filterMap Action.exchange? = [.received address second] ∧
      d'.latest = some ⟨temperatureOfRaw (wordOf first), humidityOfRaw (wordOf second)⟩ ∧
      d'.timer.lastSuccess = some now := by
  cases hupdate with
  | measured hphase hdue second hsecond temperature hpending =>
    obtain ⟨first, hfirst, hhalf, hcycle⟩ := h.humidity hphase
    have htemperature : temperature = temperatureOfRaw (wordOf first) :=
      Option.some.inj (hpending.symm.trans hhalf)
    subst htemperature
    refine ⟨first, second, hfirst, hsecond, ?_, by simp, rfl, rfl⟩
    simp [cycleExchanges_concat, beginsCycle, hphase, hcycle, Episode.acknowledged,
      Episode.exchanges]
  | rested | started | startRefused | unread | spoilt | halfway | halfwayRefused | dropped =>
    simp [Renews, PollTimer.beginCycle, PollTimer.enterState] at hrenews

/-- With the humidity conversion out, an intact answer becomes a reading, since there is a
temperature to pair it with. -/
theorem Paired.not_dropped {past : List (Episode Event Driver Call)} {d d' : Driver}
    {now : Micros} {actions : List (Action Event)} {bytes : Vector UInt8 3} (h : Paired past d)
    (hupdate : d.Update now actions d') (hphase : d.phase = .waitingForConversion .humidity)
    (hread : .received address bytes ∈ actions.filterMap Action.exchange?)
    (hbytes : Intact bytes) : Renews ⟨d, .update now, actions, d'⟩ := by
  obtain ⟨first, hfirst, hhalf, hcycle⟩ := h.humidity hphase
  cases hupdate with
  | measured => exact .inr (.inr ⟨_, List.mem_cons_of_mem _ List.mem_cons_self⟩)
  | dropped _ _ _ _ hpending => simp [hpending] at hhalf
  | spoilt _ _ _ other hother =>
    have hsame : bytes = other := by simpa using hread
    exact absurd (hsame ▸ hbytes) hother
  | unread => simp [(Exchange.failed_ne_received _ _ _ _ _).symm] at hread
  | rested => simp at hread
  | started hother | startRefused hother | halfway hother | halfwayRefused hother =>
    simp [hother] at hphase

/-- Record and driver belong together in every history, by induction on the calls. -/
theorem paired_history (interval : Micros) (bus : β) (calls : List Call) :
    Paired (history interval bus calls).past (history interval bus calls).state := by
  apply History.invariant Paired step_always
  · intro past d c actions d' h hstep
    cases c with
    | init now =>
      obtain ⟨result, hinit⟩ := hstep
      exact h.init hinit
    | update now => exact h.update hstep
  · exact ⟨by simp [History.start, ofInterval], by simp [History.start, ofInterval]⟩

/-- Over every bus and every order of calls, whenever a call renews the reading it is an update,
the acknowledged transactions of its cycle are the two triggers and the two intact answers, the
second of them read just now, and the reading is made of these two. While the humidity conversion
runs there is a temperature to pair it with, so an intact humidity answer is never dropped. -/
theorem reading_never_torn (interval : Micros) (bus : β) (calls : List Call) (c : Call) :
    let h := history interval bus calls
    let e := h.episode step c
    (h.state.phase = .waitingForConversion .humidity → h.state.pendingTemperature.isSome) ∧
    (Renews e → ∃ now first second, c = .update now ∧ Intact first ∧ Intact second ∧
      cycleExchanges (h.past ++ [e]) =
        [.wrote address [0xF3], .received address first,
          .wrote address [0xF5], .received address second] ∧
      e.exchanges = [.received address second] ∧
      e.after.latest = some ⟨temperatureOfRaw (wordOf first), humidityOfRaw (wordOf second)⟩ ∧
      e.after.timer.lastSuccess = some now) ∧
    (∀ bytes, h.state.phase = .waitingForConversion .humidity →
      .received address bytes ∈ e.exchanges → Intact bytes → Renews e) := by
  intro h e
  have hpaired : Paired h.past h.state := paired_history interval bus calls
  have hstep : h.state.Step c e.actions e.after := (step_always h.state c).run h.bus
  refine ⟨?_, ?_, ?_⟩
  · intro hphase
    obtain ⟨bytes, _, hhalf, _⟩ := hpaired.humidity hphase
    rw [hhalf]
    rfl
  · intro hrenews
    cases c with
    | init now =>
      obtain ⟨result, hinit⟩ := hstep
      exact absurd hrenews hinit.not_renews
    | update now =>
      obtain ⟨first, second, hfirst, hsecond, hcycle, hread, hlatest, hsuccess⟩ :=
        hpaired.whole hstep hrenews
      exact ⟨now, first, second, rfl, hfirst, hsecond, hcycle, hread, hlatest, hsuccess⟩
  · intro bytes hphase hread hbytes
    cases c with
    | init now =>
      obtain ⟨result, hinit⟩ := hstep
      exact absurd hread (hinit.not_received bytes)
    | update now => exact hpaired.not_dropped hstep hphase hread hbytes

/-- A bus with nothing on it but an HTU21D, which answers at once. -/
def loneBus : SimulatedBus :=
  { SimulatedBus.empty with htu21d := some ⟨0x6000, 0x8002, none, false, 0⟩ }

/-- The first cycle of a driver, on a bus where nothing goes wrong. -/
theorem reading_never_torn_undisturbed :
    let h := history 1000000 loneBus [.init 0, .update 1000000, .update 1050000]
    let e := h.episode step (.update 1066000)
    Renews e ∧ ∃ first second, Intact first ∧ Intact second ∧
      cycleExchanges (h.past ++ [e]) =
        [.wrote address [0xF3], .received address first,
          .wrote address [0xF5], .received address second] := by
  intro h e
  have hrenews : Renews e := .inr (.inl (by decide +kernel))
  obtain ⟨now, first, second, -, hfirst, hsecond, hcycle, -⟩ :=
    (reading_never_torn 1000000 loneBus [.init 0, .update 1000000, .update 1050000]
      (.update 1066000)).2.1 hrenews
  exact ⟨hrenews, first, second, hfirst, hsecond, hcycle⟩

end AirStation.Htu21d.Driver
