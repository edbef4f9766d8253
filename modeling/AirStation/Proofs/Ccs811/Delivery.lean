import AirStation.Proofs.Ccs811.Device
import AirStation.Proofs.Ccs811.Pointer

/-!
Published results on their way to the reader. A result that the device holds is either delivered by
the call that takes it, or it stays with the device: a read that finds the pointer elsewhere finds
neither an error nor a result, so the driver keeps nothing and the device loses nothing.

What has been published and what has been delivered is read off the record of a session. The last of
the two kinds says whether a result is outstanding (`Awaits`), and the device holds it exactly then
(`Outstanding`). Faults, failed set-ups and reads of the baseline in the middle of a cycle are part
of the sessions.
-/

namespace AirStation.Ccs811

namespace Model

variable {m : Model}

/-- At the result register the device sends the reading, the status and the error, in this order. -/
theorem frame_result (h : m.pointer = Register.result) :
    m.frame = [Word.high m.eco2, Word.low m.eco2, Word.high m.tvoc, Word.low m.tvoc, m.status,
      m.errorId] := by
  rw [frame, h]
  rfl

/-- No other register sends more than two bytes of its own; the rest of a longer read is zero. -/
theorem length_frame_le (h : m.pointer ≠ Register.result) : m.frame.length ≤ 2 := by
  unfold frame
  split
  case h_3 hpointer => exact absurd hpointer h
  all_goals simp [Word.bigEndian]

theorem answer_status (h : m.pointer = Register.result) :
    (Responder.answer m 8).1.get 4 = m.status := by
  refine (get_answerBytes _ _).trans ?_
  rw [frame_result h]
  rfl

/-- The status byte is out of reach from every other register, so such a read announces nothing. -/
theorem answer_status_elsewhere (h : m.pointer ≠ Register.result) :
    (Responder.answer m 8).1.get 4 = 0 := by
  refine (get_answerBytes _ _).trans ?_
  rw [List.getElem?_eq_none (Nat.le_trans (length_frame_le h) (by decide))]
  rfl

theorem readingOf_answer (h : m.pointer = Register.result) :
    readingOf (Responder.answer m 8).1 = ⟨m.eco2, m.tvoc⟩ := by
  simp only [readingOf, Responder.answer, get_answerBytes, frame_result h]
  exact congr (congrArg Reading.mk (Word.ofBytes_high_low m.eco2)) (Word.ofBytes_high_low m.tvoc)

theorem not_erroneous_answer (h : m.errorId = 0) : ¬ Erroneous (Responder.answer m 8).1 := by
  by_cases hpointer : m.pointer = Register.result
  · rw [Erroneous, answer_status hpointer, status, h]
    cases m.started <;> cases m.dataReady <;> decide
  · simp [Erroneous, answer_status_elsewhere hpointer]

/-- An answer announces a result exactly if the result register is selected and there is one. -/
theorem fresh_answer (h : m.errorId = 0) :
    Fresh (Responder.answer m 8).1 ↔ m.pointer = Register.result ∧ m.dataReady = true := by
  by_cases hpointer : m.pointer = Register.result
  · rw [Fresh, answer_status hpointer, status, h]
    simp only [hpointer, true_and]
    cases m.started <;> cases m.dataReady <;> decide
  · simp [Fresh, answer_status_elsewhere hpointer, hpointer]

theorem answer_result (h : m.pointer = Register.result) (count : Nat) :
    (Responder.answer m count).2 = { m with dataReady := false } :=
  if_pos h

theorem measured_answer_stale (herror : m.errorId = 0)
    (hfresh : ¬ Fresh (Responder.answer m 8).1) :
    (Responder.answer m 8).2.measured = m.measured := by
  by_cases hpointer : m.pointer = Register.result
  · have hready : m.dataReady = false := by
      simpa [fresh_answer herror, hpointer] using hfresh
    rw [answer_result hpointer, measured, measured, hready]
  · rw [answer_elsewhere m hpointer]

@[simp] theorem pointer_select (m : Model) (register : UInt8) :
    (Responder.receive m [register]).pointer = register := by
  simp only [Responder.receive, receive, store]
  split <;> rfl

/-- A read of another register leaves the result with the device, though it moves the pointer. -/
theorem measured_fetch (m : Model) {register : UInt8} (h : register ≠ Register.result)
    (count : Nat) :
    (Responder.answer (Responder.receive m [register]) count).2.measured = m.measured := by
  rw [answer_elsewhere _ (by simpa using h), measured_receive]

end Model

namespace Driver

/-- A call after which the latest reading or its time is another, or which reports a reading.
Nothing that could be taken for a delivery is left out. -/
def Delivers (e : Episode Event Driver Call) : Prop :=
  e.after.latest ≠ e.before.latest ∨
    e.after.timer.lastSuccess ≠ e.before.timer.lastSuccess ∨
    ∃ reading, .reported (.ccs811Measured reading) ∈ e.actions

/-- A result is published, or a call delivers one. The later of the two says whether something is
outstanding. -/
def Settles : Happening Event Driver Call → Prop
  | .disturbed (.publish _ _) => True
  | .disturbed _ => False
  | .called e => Delivers e

/-- The last that was published has not been delivered yet, as the two values that are awaited. -/
def Awaits (past : List (Happening Event Driver Call)) (eco2 tvoc : UInt16) : Prop :=
  LastOf Settles past (.disturbed (.publish eco2 tvoc))

/-- A session of a new driver, with calls and disturbances in any order. -/
def session (address : UInt8) (interval : Micros) (mode : DriveMode) (bus : SimulatedBus)
    (turns : List (Turn Call)) : Session Event Driver Call :=
  (Session.start (create address interval mode) bus).play step turns

/-- No error is raised on the device; a disturbance may well clear one. -/
def Healthy (t : Turn Call) : Prop :=
  ∀ errorId, t = .disturb (.raiseError errorId) → errorId = 0

section Calls

variable {d d' : Driver} {now : Micros} {c : Call} {actions : List (Action Event)} {m : Model}

/-- A call that delivers nothing to the reader, and leaves the device with what it has measured. -/
def Silent (e : Episode Event Driver Call) : Prop :=
  ¬ Delivers e ∧ ∀ action ∈ e.actions, action.Keeps e.before.address Model.measured

/-- A call that hands the result over: it is an update, it stores and reports what the device held,
and the device counts it as read. -/
structure HandsOver (e : Episode Event Driver Call) (m : Model) : Prop where
  ready : m.dataReady = true
  updates : ∃ now, e.call = .update now ∧ e.after.timer.lastSuccess = some now
  latest : e.after.latest = some ⟨m.eco2, m.tvoc⟩
  reports : .reported (.ccs811Measured ⟨m.eco2, m.tvoc⟩) ∈ e.actions
  taken : (e.exchanges.foldl (served e.before.address) m).dataReady = false
  errorId_eq : (e.exchanges.foldl (served e.before.address) m).errorId = m.errorId

theorem HandsOver.delivers {e : Episode Event Driver Call} (h : HandsOver e m) : Delivers e :=
  .inr (.inr ⟨_, h.reports⟩)

/-- A set-up delivers nothing and takes nothing, whether it succeeds or fails. -/
theorem Init.silent {result : Except SensorError Unit} (h : d.Init now actions (result, d')) :
    Silent ⟨d, .init now, actions, d'⟩ := by
  have hfetch : ∀ m : Model, ∀ count,
      (Responder.answer (Responder.receive m [Register.hardwareId]) count).2.measured =
        m.measured := fun m => m.measured_fetch (by decide)
  cases h <;> simp [Silent, Delivers, PollTimer.beginCycle, hfetch]

/-- Reading the baseline moves the pointer and interrupts the cycle, but takes no result away. -/
theorem ReadBaseline.silent {result : Except SensorError UInt16}
    (h : d.ReadBaseline actions (result, d')) : Silent ⟨d, .readBaseline, actions, d'⟩ := by
  have hfetch : ∀ m : Model, ∀ count,
      (Responder.answer (Responder.receive m [Register.baseline]) count).2.measured =
        m.measured := fun m => m.measured_fetch (by decide)
  cases h with
  | idle => simp [Silent, Delivers]
  | refused | read =>
    refine ⟨by simp [Delivers, measured_not_mem_interruption], ?_⟩
    exact List.forall_mem_append.mpr ⟨d.keeps_interruption Model.measured, by simp [hfetch]⟩

theorem WriteBaseline.silent {baseline : UInt16} {result : Except SensorError Unit}
    (h : d.WriteBaseline baseline actions (result, d')) :
    Silent ⟨d, .writeBaseline baseline, actions, d'⟩ := by
  cases h with
  | idle => simp [Silent, Delivers]
  | refused | written =>
    refine ⟨by simp [Delivers, measured_not_mem_interruption], ?_⟩
    exact List.forall_mem_append.mpr ⟨d.keeps_interruption Model.measured, by simp⟩

/-- The exchange that reads, if there is one, leaves the device with its result or takes it. The
driver keeps what was taken, since the answer was whole and its status good. -/
theorem Update.silent_or_handsOver (h : d.Update now actions d') (herror : m.errorId = 0)
    (hgenuine : AllGenuine d.address m (actions.filterMap Action.exchange?)) :
    ¬ Delivers ⟨d, .update now, actions, d'⟩ ∧
        ((actions.filterMap Action.exchange?).foldl (served d.address) m).measured = m.measured ∨
      HandsOver ⟨d, .update now, actions, d'⟩ m := by
  cases h with
  | rested | selected | selectRefused | told | toldSelectRefused | untold | unread =>
    left
    simp [Delivers, PollTimer.beginCycle, PollTimer.enterState]
  | erroneous stage hphase hdue bytes hbytes =>
    obtain rfl : bytes = _ := by simpa using hgenuine
    exact absurd hbytes (Model.not_erroneous_answer herror)
  | nothingNew stage hphase hdue bytes hbytes hfresh =>
    obtain rfl : bytes = _ := by simpa using hgenuine
    left
    refine ⟨by simp [Delivers], ?_⟩
    simpa using Model.measured_answer_stale herror hfresh
  | measured stage hphase hdue bytes hbytes hfresh =>
    obtain rfl : bytes = _ := by simpa using hgenuine
    obtain ⟨hpointer, hready⟩ := (Model.fresh_answer herror).mp hfresh
    have hreading := Model.readingOf_answer hpointer
    right
    exact {
      ready := hready
      updates := ⟨now, rfl, rfl⟩
      latest := congrArg some hreading
      reports := by simp [hreading]
      taken := by simp [Episode.exchanges, Model.answer_result hpointer]
      errorId_eq := by simp [Episode.exchanges, Model.answer_result hpointer] }

/-- A call is silent, or it is an update that hands over what the device holds. -/
theorem Step.silent_or_handsOver (h : d.Step c actions d') (herror : m.errorId = 0)
    (hgenuine : AllGenuine d.address m (actions.filterMap Action.exchange?)) :
    ¬ Delivers ⟨d, c, actions, d'⟩ ∧
        ((actions.filterMap Action.exchange?).foldl (served d.address) m).measured = m.measured ∨
      HandsOver ⟨d, c, actions, d'⟩ m := by
  cases c with
  | update now => exact Update.silent_or_handsOver h herror hgenuine
  | init now =>
    obtain ⟨result, h⟩ := h
    exact .inl ⟨h.silent.1, foldl_served_eq h.silent.2 m⟩
  | setEnvironment temperature humidity =>
    obtain ⟨rfl, rfl⟩ := h
    exact .inl ⟨by simp [Delivers, setEnvironment], rfl⟩
  | readBaseline =>
    obtain ⟨result, h⟩ := h
    exact .inl ⟨h.silent.1, foldl_served_eq h.silent.2 m⟩
  | writeBaseline baseline =>
    obtain ⟨result, h⟩ := h
    exact .inl ⟨h.silent.1, foldl_served_eq h.silent.2 m⟩

theorem Step.address_eq (h : d.Step c actions d') : d'.address = d.address := by
  cases c with
  | update now => exact Update.address_eq h
  | init now =>
    obtain ⟨result, h⟩ := h
    exact h.pendingEnvironment_eq.1
  | setEnvironment temperature humidity =>
    obtain ⟨-, rfl⟩ := h
    rfl
  | readBaseline =>
    obtain ⟨result, h⟩ := h
    exact h.pendingEnvironment_eq.1
  | writeBaseline baseline =>
    obtain ⟨result, h⟩ := h
    exact h.pendingEnvironment_eq.1

end Calls

/-- The device holds the result that has been published and not delivered, and no other. -/
structure Outstanding (past : List (Happening Event Driver Call)) (m : Model) : Prop where
  errorId_eq : m.errorId = 0
  ready_iff : m.dataReady = true ↔ ∃ eco2 tvoc, Awaits past eco2 tvoc
  held : ∀ eco2 tvoc, Awaits past eco2 tvoc → eco2 = m.eco2 ∧ tvoc = m.tvoc

section Past

variable {past : List (Happening Event Driver Call)} {m m' : Model}

/-- A result that is ready is the one that is awaited, with its two values. -/
theorem Outstanding.awaits (h : Outstanding past m) (hready : m.dataReady = true) :
    Awaits past m.eco2 m.tvoc := by
  obtain ⟨eco2, tvoc, hawaits⟩ := h.ready_iff.mp hready
  obtain ⟨rfl, rfl⟩ := h.held eco2 tvoc hawaits
  exact hawaits

/-- What neither publishes nor delivers keeps a result outstanding or not, as it was. -/
theorem Outstanding.quiet (h : Outstanding past m) {x : Happening Event Driver Call}
    (hx : ¬ Settles x) (hmeasured : m'.measured = m.measured) : Outstanding (past ++ [x]) m' := by
  obtain ⟨heco2, htvoc, hready, herror⟩ : m'.eco2 = m.eco2 ∧ m'.tvoc = m.tvoc ∧
      m'.dataReady = m.dataReady ∧ m'.errorId = m.errorId := by
    simpa [Model.measured] using hmeasured
  constructor
  · rw [herror, h.errorId_eq]
  · simp only [hready, h.ready_iff, Awaits, lastOf_concat_of_not hx]
  · simp only [heco2, htvoc, Awaits, lastOf_concat_of_not hx]
    exact h.held

/-- After a delivery nothing is outstanding, and the device has nothing ready. -/
theorem Outstanding.handedOver {e : Episode Event Driver Call} (h : Outstanding past m)
    (he : HandsOver e m) :
    Outstanding (past ++ [.called e]) (e.exchanges.foldl (served e.before.address) m) := by
  have hsettles : Settles (.called e) := he.delivers
  constructor
  · rw [he.errorId_eq, h.errorId_eq]
  · simp [he.taken, Awaits, lastOf_concat_of_kind hsettles]
  · simp [Awaits, lastOf_concat_of_kind hsettles]

theorem Outstanding.published (h : Outstanding past m) (eco2 tvoc : UInt16) :
    Outstanding (past ++ [.disturbed (.publish eco2 tvoc)]) (m.publish eco2 tvoc) := by
  have hsettles : Settles (.disturbed (.publish eco2 tvoc)) := trivial
  constructor
  · exact h.errorId_eq
  · simp [Model.publish, Awaits, lastOf_concat_of_kind hsettles]
  · simp [Model.publish, Awaits, lastOf_concat_of_kind hsettles]

theorem Outstanding.disturbed (h : Outstanding past m) {disturbance : Disturbance}
    (hhealthy : Healthy (.disturb disturbance)) :
    Outstanding (past ++ [.disturbed disturbance]) (m.disturbed disturbance) := by
  cases disturbance with
  | publish eco2 tvoc => exact h.published eco2 tvoc
  | raiseError errorId =>
    obtain rfl := hhealthy errorId rfl
    exact h.quiet id (by simp [Model.measured, Model.disturbed, Model.raiseError, h.errorId_eq])
  | failNext | setOffline | setTemperature | setHumidity | setCorrupt | stage =>
    exact h.quiet id rfl

end Past

/-- The device holds what is outstanding after every session that starts without a result. -/
theorem outstanding_session {address : UInt8} {bus : SimulatedBus} {m : Model}
    (hat : Model.AnswersAt address bus m) (herror : m.errorId = 0) (hready : m.dataReady = false)
    (interval : Micros) (mode : DriveMode) {turns : List (Turn Call)}
    (hturns : ∀ t ∈ turns, Healthy t) :
    ∃ m', Model.AnswersAt address (session address interval mode bus turns).bus m' ∧
      (session address interval mode bus turns).state.address = address ∧
      Outstanding (session address interval mode bus turns).past m' := by
  apply Session.attached_invariant (Model.wired address) step_always Healthy
    (fun past d m => d.address = address ∧ Outstanding past m)
  · rintro past d c actions d' m - ⟨rfl, houtstanding⟩ hstep hgenuine
    refine ⟨hstep.address_eq, ?_⟩
    rcases hstep.silent_or_handsOver houtstanding.errorId_eq hgenuine with ⟨hsilent, hkept⟩ | hover
    · exact houtstanding.quiet hsilent hkept
    · exact houtstanding.handedOver hover
  · rintro past d disturbance m hhealthy ⟨haddress, houtstanding⟩
    exact ⟨haddress, houtstanding.disturbed hhealthy⟩
  · exact hat
  · refine ⟨rfl, herror, ?_, ?_⟩
    · simp [hready, Awaits, Session.start, not_lastOf_nil]
    · simp [Awaits, Session.start, not_lastOf_nil]
  · exact hturns

/-- Over a bus on which a CCS811 without errors answers the driver, and for all calls, publications
and faults in any order: the device has data ready exactly while the last that was published has not
been delivered, and a call that delivers anything is an update, delivers just that, and marks the
time. So nothing is delivered twice, and nothing is lost but to a newer publication. -/
theorem each_result_delivered_once (address : UInt8) (interval : Micros) (mode : DriveMode)
    (bus : SimulatedBus) (m : Model) (turns : List (Turn Call))
    (hat : Model.AnswersAt address bus m) (herror : m.errorId = 0) (hready : m.dataReady = false)
    (hturns : ∀ t ∈ turns, Healthy t) :
    let s := session address interval mode bus turns
    (∃ m', Model.AnswersAt address s.bus m' ∧
      (m'.dataReady = true ↔ ∃ eco2 tvoc, Awaits s.past eco2 tvoc)) ∧
    ∀ c, Delivers (s.episode step c) → ∃ now eco2 tvoc, c = .update now ∧
      Awaits s.past eco2 tvoc ∧
      (s.episode step c).after.latest = some ⟨eco2, tvoc⟩ ∧
      (s.episode step c).after.timer.lastSuccess = some now := by
  intro s
  obtain ⟨m', hat', haddress, houtstanding⟩ :=
    outstanding_session hat herror hready interval mode hturns
  refine ⟨⟨m', hat', houtstanding.ready_iff⟩, ?_⟩
  intro c hdelivers
  have hstep : s.state.Step c (s.episode step c).actions (s.episode step c).after :=
    (step_always s.state c).run s.bus
  have hgenuine : AllGenuine s.state.address m' (s.episode step c).exchanges := by
    rw [show s.state.address = address from haddress]
    exact Session.episode_genuine (Model.wired address) hat' c
  rcases hstep.silent_or_handsOver houtstanding.errorId_eq hgenuine with ⟨hsilent, -⟩ | hover
  · exact absurd hdelivers hsilent
  · obtain ⟨now, hc, hsuccess⟩ := hover.updates
    exact ⟨now, m'.eco2, m'.tvoc, hc, houtstanding.awaits hover.ready, hover.latest, hsuccess⟩

/-- A baseline is read in the middle of the cycle, and a set-up fails after that. Both only delay
the result. -/
theorem each_result_delivered_once_interrupted :
    let turns : List (Turn Call) := [.call (.init 0), .disturb (.publish 450 12),
      .call (.update 1000000), .call .readBaseline, .disturb (.failNext 0x5A),
      .call (.init 1500000), .call (.update 2000000)]
    let s := session 0x5A 1000000 .constantPower1s Model.standard.lone turns
    let e := s.episode step (.update 2000001)
    e.after.latest = some ⟨450, 12⟩ ∧ Awaits s.past 450 12 := by
  intro turns s e
  have hlatest : e.after.latest = some ⟨450, 12⟩ := by decide +kernel
  have hdelivers : Delivers e := .inr (.inl (by decide +kernel))
  obtain ⟨-, hdelivered⟩ := each_result_delivered_once 0x5A 1000000 .constantPower1s _ _ turns
    Model.standard.answersAt_lone rfl rfl (by simp [Healthy, turns])
  obtain ⟨now, eco2, tvoc, -, hawaits, hreading, -⟩ := hdelivered (.update 2000001) hdelivers
  obtain ⟨rfl, rfl⟩ := Reading.mk.inj (Option.some.inj (hlatest.symm.trans hreading))
  exact ⟨hlatest, hawaits⟩

end Driver

end AirStation.Ccs811
