import AirStation.Proofs.Htu21d.Device
import AirStation.Proofs.Htu21d.Pairing
import AirStation.Proofs.Simulated.Furnished

/-!
The HTU21D driver in a closed loop with its device. The device keeps the last measurement that was
asked for, and the driver the one it waits for. `InStep` says that the two agree and where the half
of a reading was found; faults, resets and disturbances keep it, so nothing that was not asked for
is ever received, and a reading is what the device held (`driver_in_step_with_device`).

A `Bench` follows the device through a session and notes in which states the reads of the cycle
under way found it. It sees only what went over the bus and what happened to the device, so what is
said of a reading does not depend on the driver's own record of it.
-/

namespace AirStation.Htu21d

/-- A call of the driver, or a transaction of somebody else on the bus. -/
inductive Use where
  | own (c : Call)
  | other (target : UInt8) (transfer : Transfer)

namespace Driver

/-- What is done on the bus in either case. Somebody else leaves the driver as it is. -/
def use (d : Driver) : Use → SensorM Driver
  | .own c => d.step c
  | .other target transfer => .exchange target transfer fun _ => .done d

/-- The outcomes of a use, whatever the bus answers. -/
def Used (d : Driver) : Use → List (Action Event) → Driver → Prop
  | .own c => d.Step c
  | .other target transfer => fun actions d' =>
    ∃ response, actions = [.exchanged ⟨target, transfer, response⟩] ∧ d' = d

theorem use_always (d : Driver) (u : Use) : (d.use u).Always (d.Used u) := by
  cases u with
  | own c => exact d.step_always c
  | other target transfer => exact fun response => ⟨response, rfl, rfl⟩

/-- A session of a new driver, with calls, other traffic and disturbances in any order. -/
def session (interval : Micros) (bus : SimulatedBus) (turns : List (Turn Use)) :
    Session Event Driver Use :=
  (Session.start (ofInterval interval) bus).play use turns

/-- Nobody else addresses the device, though they may use the bus at any time. -/
def Private (t : Turn Use) : Prop :=
  ∀ target transfer, t = .call (.other target transfer) → target ≠ address

/-- The device, and the states in which the reads of the cycle under way found it. -/
structure Bench where
  device : Model
  found : List Model

namespace Bench

/-- What the bench makes of a transaction: the device serves it, and if it was a read that got
through, its state is noted. -/
def exchange (b : Bench) (e : Exchange) : Bench where
  device := served address b.device e
  found :=
    if e.address = address ∧ e.acknowledged ∧ e.transfer.reads then b.found ++ [b.device]
    else b.found

/-- This episode begins a cycle, so what earlier reads found no longer counts. -/
def opens (e : Episode Event Driver Use) : Bool :=
  match e.call with
  | .own c => beginsCycle ⟨e.before, c, e.actions, e.after⟩
  | .other _ _ => false

/-- What the bench makes of a call or of a disturbance. -/
def turn (b : Bench) : Happening Event Driver Use → Bench
  | .called e => e.exchanges.foldl exchange (if opens e then { b with found := [] } else b)
  | .disturbed d => { b with device := b.device.disturbed d }

@[simp] theorem exchange_wrote (b : Bench) (bytes : List UInt8) :
    b.exchange (.wrote address bytes) = { b with device := Responder.receive b.device bytes } :=
  congr (congrArg Bench.mk (served_wrote address b.device bytes))
    (if_neg fun h => Bool.noConfusion h.2.2)

@[simp] theorem exchange_received (b : Bench) (bytes : Vector UInt8 3) :
    b.exchange (.received address bytes) =
      ⟨(Responder.answer b.device 3).2, b.found ++ [b.device]⟩ :=
  congr (congrArg Bench.mk (served_received address b.device bytes)) (if_pos ⟨rfl, rfl, rfl⟩)

@[simp] theorem exchange_failed (b : Bench) (transfer : Transfer) (fault : Fault) :
    b.exchange (.failed address transfer fault) = b :=
  congr (congrArg Bench.mk (served_failed address b.device address transfer fault))
    (if_neg fun h => Bool.noConfusion h.2.1)

theorem exchange_elsewhere (b : Bench) {e : Exchange} (he : e.address ≠ address) :
    b.exchange e = b := by
  simp [exchange, he, served_elsewhere address b.device he]

theorem device_exchanges (b : Bench) (exchanges : List Exchange) :
    (exchanges.foldl exchange b).device = exchanges.foldl (served address) b.device := by
  induction exchanges generalizing b with
  | nil => rfl
  | cons e rest ih => exact ih (b.exchange e)

theorem device_turn (b : Bench) (e : Episode Event Driver Use) :
    (b.turn (.called e)).device = e.exchanges.foldl (served address) b.device := by
  rw [turn, device_exchanges]
  split <;> rfl

end Bench

/-- The bench after a session that started with the device in the given state. -/
def bench (m : Model) (past : List (Happening Event Driver Use)) : Bench :=
  past.foldl Bench.turn ⟨m, []⟩

theorem bench_concat (m : Model) (past : List (Happening Event Driver Use))
    (x : Happening Event Driver Use) : bench m (past ++ [x]) = (bench m past).turn x :=
  List.foldl_append

/-- The driver waits for what the device is asked for, and the half of a reading it holds is what
the first read of the cycle found. -/
structure InStep (b : Bench) (d : Driver) : Prop where
  temperature : d.phase = .waitingForConversion .temperature →
    b.device.pending = some .temperature ∧ b.found = []
  humidity : d.phase = .waitingForConversion .humidity →
    b.device.pending = some .humidity ∧ ∃ first : Model, b.found = [first] ∧
      first.Offers .temperature ∧
      d.pendingTemperature = some (temperatureOfRaw first.temperatureRaw)

section Steps

variable {b : Bench} {d d' : Driver} {now : Micros} {c : Call} {actions : List (Action Event)}

theorem InStep.pending (h : InStep b d) {stage : Stage}
    (hphase : d.phase = .waitingForConversion stage) : b.device.pending = some stage := by
  cases stage with
  | temperature => exact (h.temperature hphase).1
  | humidity => exact (h.humidity hphase).1

/-- A set-up resets the device when it succeeds, and the driver waits for nothing then; when it is
refused, both are as they were. -/
theorem InStep.init {result : Except SensorError Unit} (h : InStep b d)
    (hinit : d.Init now actions (result, d')) :
    InStep (b.turn (.called ⟨d, .own (.init now), actions, d'⟩)) d' := by
  cases hinit with
  | refused fault =>
    simpa [Bench.turn, Bench.opens, beginsCycle, Episode.exchanges] using h
  | ready => exact ⟨by simp, by simp⟩

/-- Every outcome of an update keeps driver and device in step. A trigger that is refused leaves the
device with an old measurement, but the driver has given up waiting. -/
theorem InStep.update (h : InStep b d) (hupdate : d.Update now actions d')
    (hgenuine : AllGenuine address b.device (actions.filterMap Action.exchange?)) :
    InStep (b.turn (.called ⟨d, .own (.update now), actions, d'⟩)) d' := by
  cases hupdate with
  | rested hdue =>
    simpa [Bench.turn, Bench.opens, beginsCycle, hdue, Episode.exchanges] using h
  | started hphase hdue =>
    refine ⟨fun _ => ?_, by simp⟩
    simp only [Bench.turn, Bench.opens, beginsCycle, hphase, BEq.rfl, hdue, Bool.and_self,
      ↓reduceIte, Episode.exchanges, Action.exchanges_exchanged, Action.exchanges_reported,
      List.filterMap_nil, List.foldl_cons, Bench.exchange_wrote, List.foldl_nil, and_true]
    rfl
  | halfway hphase hdue bytes hbytes =>
    obtain rfl : bytes = _ := by simpa using hgenuine
    obtain ⟨hpending, hfound⟩ := h.temperature hphase
    refine ⟨by simp, fun _ => ?_⟩
    have hraw : b.device.raw = b.device.temperatureRaw := by simp [Model.raw, hpending]
    have hintact : b.device.corrupt = false := b.device.intact_answer.mp hbytes
    simp only [Bench.turn, Bench.opens, beginsCycle, hphase, Bool.and_eq_true, beq_iff_eq,
      reduceCtorEq, false_and, ↓reduceIte, Episode.exchanges, Action.exchanges_exchanged,
      Action.exchanges_reported, List.filterMap_nil, List.foldl_cons, Bench.exchange_received,
      hfound, List.nil_append, Bench.exchange_wrote, List.foldl_nil, List.cons.injEq, and_true,
      Option.some.injEq, exists_eq_left']
    refine ⟨rfl, ⟨hpending, hintact⟩, ?_⟩
    rw [Model.wordOf_answer, hraw]
  | startRefused | unread | spoilt | halfwayRefused | measured | dropped =>
    exact ⟨by simp, by simp⟩

theorem InStep.step (h : InStep b d) (hstep : d.Step c actions d')
    (hgenuine : AllGenuine address b.device (actions.filterMap Action.exchange?)) :
    InStep (b.turn (.called ⟨d, .own c, actions, d'⟩)) d' := by
  cases c with
  | init now =>
    obtain ⟨result, hinit⟩ := hstep
    exact h.init hinit
  | update now => exact h.update hstep hgenuine

/-- Somebody else on the bus is not noticed, since the device is not addressed. -/
theorem Bench.turn_other (b : Bench) (d : Driver) {target : UInt8} (htarget : target ≠ address)
    (transfer : Transfer) (response : Response transfer) :
    b.turn (.called ⟨d, .other target transfer, [.exchanged ⟨target, transfer, response⟩], d⟩) =
      b :=
  b.exchange_elsewhere htarget

theorem InStep.disturbed (h : InStep b d) (disturbance : Disturbance) :
    InStep (b.turn (.disturbed disturbance)) d := by
  have hpending : (b.device.disturbed disturbance).pending = b.device.pending := by
    cases disturbance <;> rfl
  constructor
  · intro hphase
    exact ⟨hpending.trans (h.temperature hphase).1, (h.temperature hphase).2⟩
  · intro hphase
    exact ⟨hpending.trans (h.humidity hphase).1, (h.humidity hphase).2⟩

/-- A read that gets through finds a measurement that was asked for. The driver never reads without
waiting for one. -/
theorem InStep.asked (h : InStep b d) (hstep : d.Step c actions d') :
    Throughout (fun before x => x.acknowledged → x.transfer.reads →
      (before.foldl (served address) b.device).pending.isSome)
      (actions.filterMap Action.exchange?) := by
  cases c with
  | init now =>
    obtain ⟨result, hinit⟩ := hstep
    cases hinit <;>
      simp [throughout_cons, throughout_nil, Exchange.wrote, Exchange.failed, Transfer.reads,
        Exchange.acknowledged]
  | update now =>
    cases hstep with
    | rested => exact throughout_nil _
    | started | startRefused =>
      simp [throughout_cons, throughout_nil, Exchange.wrote, Exchange.failed, Transfer.reads]
    | unread stage hphase hdue fault =>
      simp [throughout_cons, throughout_nil, h.pending hphase]
    | spoilt stage hphase hdue bytes hbytes =>
      simp [throughout_cons, throughout_nil, h.pending hphase]
    | halfway hphase | halfwayRefused hphase | measured hphase | dropped hphase =>
      simp [throughout_cons, throughout_nil, h.pending hphase, Exchange.wrote, Exchange.failed,
        Transfer.reads]

theorem ordinary_exchanges {m : Model} (hordinary : m.Ordinary) (exchanges : List Exchange) :
    (exchanges.foldl (served address) m).Ordinary := by
  induction exchanges generalizing m with
  | nil => exact hordinary
  | cons e rest ih =>
    apply ih
    unfold served
    split
    · exact Model.ordinary_serve hordinary e.transfer
    · exact hordinary

/-- What the driver receives is not the word that is sent unasked. -/
theorem InStep.received_ne (h : InStep b d) (hstep : d.Step c actions d')
    (hgenuine : AllGenuine address b.device (actions.filterMap Action.exchange?))
    (hordinary : b.device.Ordinary) {bytes : Vector UInt8 3}
    (hreceived : .received address bytes ∈ actions.filterMap Action.exchange?) :
    wordOf bytes ≠ 0xFFFF := by
  obtain ⟨before, after, hsplit⟩ := List.append_of_mem hreceived
  have hanswer := hgenuine before _ after hsplit rfl bytes rfl
  have hasked := h.asked hstep before _ after hsplit rfl rfl
  rw [hanswer]
  show wordOf (Responder.answer _ 3).1 ≠ 0xFFFF
  rw [Model.wordOf_answer]
  exact Model.raw_ne _ (ordinary_exchanges hordinary before) hasked

/-- A reading is the temperature that the first read of its cycle found on the device, and the
humidity that the second one found. -/
theorem InStep.found (h : InStep b d) (hupdate : d.Update now actions d')
    (hgenuine : AllGenuine address b.device (actions.filterMap Action.exchange?))
    (hrenews : Renews ⟨d, .update now, actions, d'⟩) :
    ∃ first second : Model,
      (b.turn (.called ⟨d, .own (.update now), actions, d'⟩)).found = [first, second] ∧
      first.Offers .temperature ∧ second.Offers .humidity ∧
      d'.latest =
        some ⟨temperatureOfRaw first.temperatureRaw, humidityOfRaw second.humidityRaw⟩ ∧
      d'.timer.lastSuccess = some now := by
  cases hupdate with
  | measured hphase hdue bytes hbytes temperature hhalf =>
    obtain rfl : bytes = _ := by simpa using hgenuine
    obtain ⟨hpending, first, hfound, hfirst, hheld⟩ := h.humidity hphase
    have hraw : b.device.raw = b.device.humidityRaw := by simp [Model.raw, hpending]
    have hintact : b.device.corrupt = false := b.device.intact_answer.mp hbytes
    obtain rfl : temperature = temperatureOfRaw first.temperatureRaw :=
      Option.some.inj (hhalf.symm.trans hheld)
    refine ⟨first, b.device, ?_, hfirst, ⟨hpending, hintact⟩, ?_, rfl⟩
    · simp [Bench.turn, Bench.opens, beginsCycle, hphase, Episode.exchanges, hfound]
    · rw [Model.wordOf_answer, hraw]
  | rested | started | startRefused | unread | spoilt | halfway | halfwayRefused | dropped =>
    simp [Renews, PollTimer.beginCycle, PollTimer.enterState] at hrenews

end Steps

/-- Driver and device are in step after every session in which nobody else addresses the device. -/
theorem inStep_session {bus : SimulatedBus} {m : Model} (hat : Model.AnswersAt bus m)
    (interval : Micros) {turns : List (Turn Use)} (hturns : ∀ t ∈ turns, Private t) :
    let s := session interval bus turns
    let b := bench m s.past
    Model.AnswersAt s.bus b.device ∧ InStep b s.state ∧ (m.Ordinary → b.device.Ordinary) := by
  intro s b
  have hinvariant : ∃ m', Model.AnswersAt s.bus m' ∧ (bench m s.past).device = m' ∧
      InStep (bench m s.past) s.state ∧ (m.Ordinary → m'.Ordinary) := by
    apply Session.attached_invariant Model.wired use_always Private
      (fun past d device => (bench m past).device = device ∧ InStep (bench m past) d ∧
        (m.Ordinary → device.Ordinary))
    · rintro past d u actions d' _ hprivate ⟨rfl, hstep, hordinary⟩ hused hgenuine
      rw [bench_concat]
      refine ⟨Bench.device_turn _ _, ?_, fun hm => ordinary_exchanges (hordinary hm) _⟩
      cases u with
      | own c => exact hstep.step hused hgenuine
      | other target transfer =>
        obtain ⟨response, rfl, rfl⟩ := hused
        rwa [Bench.turn_other _ _ (hprivate target transfer rfl)]
    · rintro past d disturbance _ - ⟨rfl, hstep, hordinary⟩
      rw [bench_concat]
      refine ⟨rfl, hstep.disturbed disturbance, fun hm => ?_⟩
      exact Model.ordinary_disturbed (hordinary hm) disturbance
    · exact hat
    · exact ⟨rfl, ⟨by simp [Session.start, ofInterval], by simp [Session.start, ofInterval]⟩, id⟩
    · exact hturns
  obtain ⟨m', hat', hdevice, hstep, hordinary⟩ := hinvariant
  subst hdevice
  exact ⟨hat', hstep, hordinary⟩

/-- With nobody else at the device, and for calls, other traffic, disturbances and faults in any
order: the measurement that the driver waits for is the one pending at the device. So no read that
gets through goes unanswered, and the word of all ones never comes back. Whenever a call renews the
reading, the two reads of its cycle found the device with an intact checksum, and the reading is the
temperature it held at the first and the humidity it held at the second. -/
theorem driver_in_step_with_device (interval : Micros) (bus : SimulatedBus) (m : Model)
    (turns : List (Turn Use)) (hat : Model.AnswersAt bus m) (hturns : ∀ t ∈ turns, Private t) :
    let s := session interval bus turns
    let b := bench m s.past
    Model.AnswersAt s.bus b.device ∧
    (∀ stage, s.state.phase = .waitingForConversion stage → b.device.pending = some stage) ∧
    ∀ c,
      let e := s.episode use (.own c)
      Throughout (fun before x => x.acknowledged → x.transfer.reads →
        (before.foldl (served address) b.device).pending.isSome) e.exchanges ∧
      (m.Ordinary → ∀ bytes, .received address bytes ∈ e.exchanges → wordOf bytes ≠ 0xFFFF) ∧
      (Renews ⟨s.state, c, e.actions, e.after⟩ → ∃ now, ∃ first second : Model,
        c = .update now ∧ (bench m (s.past ++ [.called e])).found = [first, second] ∧
        first.Offers .temperature ∧ second.Offers .humidity ∧
        e.after.latest =
          some ⟨temperatureOfRaw first.temperatureRaw, humidityOfRaw second.humidityRaw⟩ ∧
        e.after.timer.lastSuccess = some now) := by
  intro s b
  obtain ⟨hat', hinStep, hordinary⟩ := inStep_session hat interval hturns
  refine ⟨hat', fun stage => hinStep.pending, ?_⟩
  intro c e
  have hstep : s.state.Step c e.actions e.after := (step_always s.state c).run s.bus
  have hgenuine : AllGenuine address b.device e.exchanges :=
    Session.episode_genuine Model.wired hat' (.own c)
  refine ⟨hinStep.asked hstep, ?_, ?_⟩
  · intro hm bytes
    exact hinStep.received_ne hstep hgenuine (hordinary hm)
  · intro hrenews
    cases c with
    | init now =>
      obtain ⟨result, hinit⟩ := hstep
      exact absurd hrenews hinit.not_renews
    | update now =>
      obtain ⟨first, second, hfound, hreading⟩ := hinStep.found hstep hgenuine hrenews
      refine ⟨now, first, second, rfl, ?_, hreading⟩
      rw [bench_concat]
      exact hfound

/-- A set-up that fails, somebody else on the bus and a checksum that is wrong for a while, before a
cycle that comes to its end. -/
theorem driver_in_step_with_device_disturbed :
    let m : Model := ⟨0x6000, 0x8002, none, false, 0⟩
    let turns : List (Turn Use) := [.call (.own (.init 0)), .disturb (.failNext 0x40),
      .call (.own (.init 10)), .call (.own (.update 1000000)), .disturb (.setCorrupt true),
      .call (.other 0x5A (.write [0xF4])), .disturb (.setCorrupt false),
      .call (.own (.update 1050000))]
    let s := session 1000000 loneBus turns
    let b := bench m s.past
    s.state.phase = .waitingForConversion .humidity ∧ b.device.pending = some .humidity ∧
    ∃ first second : Model,
      (bench m (s.past ++ [.called (s.episode use (.own (.update 1066000)))])).found =
        [first, second] ∧
      first.Offers .temperature ∧ second.Offers .humidity := by
  intro m turns
  have hphase : (session 1000000 loneBus turns).state.phase = .waitingForConversion .humidity := by
    decide +kernel
  have hsuccess : ((session 1000000 loneBus turns).episode use
      (.own (.update 1066000))).after.timer.lastSuccess ≠
        (session 1000000 loneBus turns).state.timer.lastSuccess := by
    decide +kernel
  have hinStep := driver_in_step_with_device 1000000 loneBus m turns rfl
    (by simp [Private, turns, address])
  -- What the session comes to is settled; from here on it is only compared.
  generalize session 1000000 loneBus turns = s at hphase hsuccess hinStep ⊢
  obtain ⟨-, hpending, hcalls⟩ := hinStep
  obtain ⟨-, -, hrenewed⟩ := hcalls (.update 1066000)
  obtain ⟨now, first, second, -, hfound, hfirst, hsecond, -⟩ := hrenewed (.inr (.inl hsuccess))
  exact ⟨hphase, hpending .humidity hphase, first, second, hfound, hfirst, hsecond⟩

end Driver

end AirStation.Htu21d
