import AirStation.Proofs.Sensor.Drivers
import AirStation.Simulated.Bus

/-!
The register pointer of a CCS811. The device answers a bare read from the register its pointer
stands at, and every other transaction moves the pointer. The driver has no copy of it: `Pointed`
shows that the phase serves as one, as long as no set-up fails once one has succeeded. So a result
is only ever read from the result register (`result_read_from_result_register`).

The device itself does not appear. All that is needed is the record of exchanges, since the pointer
is where the last acknowledged write put it, whatever the bus has answered in between.
-/

namespace AirStation.Ccs811.Driver

variable {β : Type} [Bus β]

/-- All that the calls so far have exchanged, in order, failed transactions included. -/
def traffic (past : List (Episode Event (Attended Driver) Call)) : List Exchange :=
  past.flatMap (·.exchanges)

/-- The last acknowledged transaction at the address is the write that selects the result register.
A transaction that failed has no say, as the device has not seen it. -/
def Selected (address : UInt8) (exchanges : List Exchange) : Prop :=
  LastOf (fun x => x.address = address ∧ x.acknowledged) exchanges
    (.wrote address [Register.result])

/-- A call after which the latest reading or its time is another, or which reports a reading. Any
one of the three makes the reading count as stored. -/
def Stores (e : Episode Event (Attended Driver) Call) : Prop :=
  e.after.driver.latest ≠ e.before.driver.latest ∨
    e.after.driver.timer.lastSuccess ≠ e.before.driver.timer.lastSuccess ∨
    ∃ reading, .reported (.ccs811Measured reading) ∈ e.actions

/-- A bare read asks for a whole result of eight bytes, and the result register is selected when it
does. Other transfers satisfy this as they are. -/
def ReadsResult (address : UInt8) (before : List Exchange) (x : Exchange) : Prop :=
  ∀ count, x.transfer = .read count → count = 8 ∧ Selected address before

/-- What is stored is what the one read of this call brought. The result register was selected for
the read, and the status byte has no error and announces data. -/
def StoresResult (address : UInt8) (before : List Exchange)
    (e : Episode Event (Attended Driver) Call) : Prop :=
  Stores e → ∃ bytes : Vector UInt8 8,
    e.exchanges = [.received address bytes] ∧ Selected address before ∧
      ¬ Erroneous bytes ∧ Fresh bytes ∧ e.after.driver.latest = some (readingOf bytes)

/-- No set-up fails after an earlier one succeeded. A set-up that fails half-way leaves the pointer
elsewhere and the phase as it was, and then the phase says nothing about the pointer. -/
def Steady (past : List (Episode Event (Attended Driver) Call)) : Prop :=
  past.Pairwise fun earlier later => ∀ time, polled.Succeeds earlier time → ¬ polled.Fails later

/-- What the record of a session says of the driver's state. While a conversion is waiting, the
result register is selected; and every read and every reading so far was a proper one. -/
structure Pointed (address : UInt8) (past : List (Episode Event (Attended Driver) Call))
    (s : Attended Driver) : Prop where
  address_eq : s.driver.address = address
  ready : s.driver.phase ≠ .idle → ∃ e ∈ past, ∃ now, polled.Succeeds e now
  selected : ∀ stage, s.driver.phase = .waitingForConversion stage →
    Selected address (traffic past)
  reads : Throughout (ReadsResult address) (traffic past)
  stores : Throughout (fun earlier => StoresResult address (traffic earlier)) past

variable {address : UInt8} {past : List (Episode Event (Attended Driver) Call)}
  {e : Episode Event (Attended Driver) Call}

theorem traffic_concat (past : List (Episode Event (Attended Driver) Call))
    (e : Episode Event (Attended Driver) Call) :
    traffic (past ++ [e]) = traffic past ++ e.exchanges := by
  simp [traffic]

theorem steady_concat (past : List (Episode Event (Attended Driver) Call))
    (e : Episode Event (Attended Driver) Call) :
    Steady (past ++ [e]) ↔
      Steady past ∧ ∀ earlier ∈ past, ∀ time, polled.Succeeds earlier time → ¬ polled.Fails e := by
  simp [Steady, List.pairwise_append]

/-- The four parts of `Pointed` are kept by a call if each of them is, where the traffic of the call
comes after that of the session. -/
theorem Pointed.extend (h : Pointed address past e.before)
    (haddress : e.after.driver.address = address)
    (hready : e.after.driver.phase ≠ .idle →
      e.before.driver.phase ≠ .idle ∨ ∃ now, polled.Succeeds e now)
    (hselected : ∀ stage, e.after.driver.phase = .waitingForConversion stage →
      Selected address (traffic past ++ e.exchanges))
    (hreads : Throughout (fun before => ReadsResult address (traffic past ++ before)) e.exchanges)
    (hstores : StoresResult address (traffic past) e) :
    Pointed address (past ++ [e]) e.after where
  address_eq := haddress
  ready hphase := by
    rcases hready hphase with hbefore | ⟨now, hnow⟩
    · obtain ⟨earlier, hmem, hearlier⟩ := h.ready hbefore
      exact ⟨earlier, List.mem_append_left _ hmem, hearlier⟩
    · exact ⟨e, by simp, now, hnow⟩
  selected stage hstage := by
    rw [traffic_concat]
    exact hselected stage hstage
  reads := by
    rw [traffic_concat, throughout_append]
    exact ⟨h.reads, hreads⟩
  stores := by
    rw [throughout_append, throughout_cons]
    exact ⟨h.stores, by simpa using hstores, throughout_nil _⟩

/-- A call that reads and stores nothing and leaves no conversion waiting. Set-ups and reads of the
baseline are of this kind, and so are failed triggers. -/
theorem Pointed.away (h : Pointed address past e.before)
    (haddress : e.after.driver.address = e.before.driver.address)
    (hready : e.after.driver.phase ≠ .idle →
      e.before.driver.phase ≠ .idle ∨ ∃ now, polled.Succeeds e now)
    (hselected : ∀ stage, e.after.driver.phase ≠ .waitingForConversion stage)
    (hreads : ∀ x ∈ e.exchanges, ∀ count, x.transfer ≠ .read count)
    (hstores : ¬ Stores e) : Pointed address (past ++ [e]) e.after := by
  apply h.extend (haddress.trans h.address_eq) hready
  · intro stage hstage
    exact absurd hstage (hselected stage)
  · apply throughout_of_forall
    intro x hx before count hcount
    exact absurd hcount (hreads x hx count)
  · intro hstored
    exact absurd hstored hstores

/-- A call without traffic keeps what is selected, and a phase that waits goes on waiting. -/
theorem Pointed.still (h : Pointed address past e.before)
    (haddress : e.after.driver.address = e.before.driver.address)
    (hphase : e.after.driver.phase = e.before.driver.phase)
    (hexchanges : e.exchanges = []) (hstores : ¬ Stores e) :
    Pointed address (past ++ [e]) e.after := by
  apply h.extend (haddress.trans h.address_eq)
  · intro hidle
    exact .inl (hphase ▸ hidle)
  · intro stage hstage
    rw [hexchanges, List.append_nil]
    exact h.selected stage (hphase ▸ hstage)
  · rw [hexchanges]
    exact throughout_nil _
  · intro hstored
    exact absurd hstored hstores

/-- A trigger whose last write, the select, was acknowledged. From here on the phase is that of a
waiting conversion. -/
theorem Pointed.select (h : Pointed address past e.before) (before : List Exchange)
    (haddress : e.after.driver.address = e.before.driver.address)
    (hphase : e.before.driver.phase ≠ .idle)
    (hexchanges : e.exchanges = before ++ [.wrote e.before.driver.address [Register.result]])
    (hreads : ∀ x ∈ e.exchanges, ∀ count, x.transfer ≠ .read count)
    (hstores : ¬ Stores e) : Pointed address (past ++ [e]) e.after := by
  apply h.extend (haddress.trans h.address_eq)
  · intro _
    exact .inl hphase
  · intro stage _
    rw [hexchanges, h.address_eq, ← List.append_assoc]
    exact lastOf_concat ⟨rfl, rfl⟩ _
  · apply throughout_of_forall
    intro x hx before count hcount
    exact absurd hcount (hreads x hx count)
  · intro hstored
    exact absurd hstored hstores

/-- A call that reads, with the conversion waiting. The register was selected before, and the phase
does not rely on it afterwards. -/
theorem Pointed.read (h : Pointed address past e.before) {stage : Stage} {x : Exchange}
    (haddress : e.after.driver.address = e.before.driver.address)
    (hbefore : e.before.driver.phase = .waitingForConversion stage)
    (hafter : e.after.driver.phase = .waitingForInterval)
    (hexchanges : e.exchanges = [x]) (hread : x.transfer = .read 8)
    (hstores : StoresResult address (traffic past) e) :
    Pointed address (past ++ [e]) e.after := by
  have hselected : Selected address (traffic past) := h.selected stage hbefore
  apply h.extend (haddress.trans h.address_eq)
  · intro _
    exact .inl (by simp [hbefore])
  · intro other hother
    simp [hafter] at hother
  · rw [hexchanges, throughout_cons]
    refine ⟨fun count hcount => ?_, throughout_nil _⟩
    obtain rfl : 8 = count := Transfer.read.inj (hread.symm.trans hcount)
    simpa using hselected
  · exact hstores

/-- A set-up may only fail before the first success, when the driver is idle and no conversion
waits. -/
theorem Pointed.idle_of_fails {s s' : Attended Driver} {c : Call} {actions : List (Action Event)}
    (h : Pointed address past s)
    (hsteady : ∀ earlier ∈ past, ∀ time, polled.Succeeds earlier time →
      ¬ polled.Fails ⟨s, c, actions, s'⟩)
    (hfails : polled.Fails ⟨s, c, actions, s'⟩) : s.driver.phase = .idle := by
  apply Decidable.byContradiction
  intro hactive
  obtain ⟨earlier, hmem, now, hsucceeds⟩ := h.ready hactive
  exact hsteady earlier hmem now hsucceeds hfails

theorem measured_not_mem_interruption (d : Driver) (reading : Reading) :
    .reported (.ccs811Measured reading) ∉ d.interruption := by
  unfold interruption
  cases d.phase <;> simp

theorem Pointed.init {s : Attended Driver} {now : Micros} {actions : List (Action Event)}
    {answer : Except SensorError Unit} {d' : Driver} (h : Pointed address past s)
    (hsteady : ∀ earlier ∈ past, ∀ time, polled.Succeeds earlier time →
      ¬ polled.Fails ⟨s, .init now, actions, ⟨d', some answer⟩⟩)
    (hinit : s.driver.Init now actions (answer, d')) :
    Pointed address (past ++ [⟨s, .init now, actions, ⟨d', some answer⟩⟩])
      ⟨d', some answer⟩ := by
  cases hinit with
  | ready bytes hbytes =>
    apply h.away rfl
    · intro _
      exact .inr ⟨now, rfl, rfl⟩
    · simp
    · simp [Episode.exchanges, Exchange.fetched, Exchange.wrote]
    · simp [Stores, PollTimer.beginCycle]
  | unidentified | mistaken | unstarted | unset =>
    -- An idle driver has nothing selected that the failed set-up could have moved away from.
    have hidle : s.driver.phase = .idle := by
      apply h.idle_of_fails hsteady
      exact ⟨rfl, by simp⟩
    apply h.away rfl
    · intro hactive
      exact .inl hactive
    · simp [hidle]
    · simp [Episode.exchanges, Exchange.fetched, Exchange.wrote, Exchange.failed]
    · simp [Stores]

theorem Pointed.update {s : Attended Driver} {now : Micros} {actions : List (Action Event)}
    {d' : Driver} (h : Pointed address past s) (hupdate : s.driver.Update now actions d') :
    Pointed address (past ++ [⟨s, .update now, actions, ⟨d', s.answer⟩⟩]) ⟨d', s.answer⟩ := by
  cases hupdate with
  | rested => exact h.still rfl rfl rfl (by simp [Stores])
  | selected hphase =>
    apply h.select [] rfl (by simp [hphase]) rfl
    · simp [Episode.exchanges, Exchange.wrote]
    · simp [Stores, PollTimer.beginCycle, PollTimer.enterState]
  | told hphase hdue environment =>
    apply h.select [.wrote s.driver.address (Register.environment :: environment.toList)] rfl
      (by simp [hphase]) rfl
    · simp [Episode.exchanges, Exchange.wrote]
    · simp [Stores, PollTimer.beginCycle, PollTimer.enterState]
  | selectRefused hphase | toldSelectRefused hphase | untold hphase =>
    apply h.away rfl
    · intro _
      exact .inl (by simp [hphase])
    · simp
    · simp [Episode.exchanges, Exchange.wrote, Exchange.failed]
    · simp [Stores, PollTimer.beginCycle]
  | unread stage hphase | erroneous stage hphase | nothingNew stage hphase =>
    apply h.read rfl hphase rfl rfl rfl
    intro hstored
    simp [Stores] at hstored
  | measured stage hphase hdue bytes hbytes hfresh =>
    apply h.read rfl hphase rfl rfl rfl
    intro _
    refine ⟨bytes, ?_, h.selected stage hphase, hbytes, hfresh, rfl⟩
    simp [Episode.exchanges, h.address_eq]

/-- Every call keeps `Pointed`, as long as it is not a set-up that fails after a success. -/
theorem Pointed.step {s s' : Attended Driver} {c : Call} {actions : List (Action Event)}
    (h : Pointed address past s) (hstep : Attends s c actions s')
    (hsteady : ∀ earlier ∈ past, ∀ time, polled.Succeeds earlier time →
      ¬ polled.Fails ⟨s, c, actions, s'⟩) :
    Pointed address (past ++ [⟨s, c, actions, s'⟩]) s' := by
  cases hstep with
  | init hinit => exact h.init hsteady hinit
  | update hupdate => exact h.update hupdate
  | setEnvironment => exact h.still rfl rfl rfl (by simp [Stores, setEnvironment])
  | readBaseline hread =>
    cases hread with
    | idle => exact h.still rfl rfl rfl (by simp [Stores])
    | refused hphase | read hphase =>
      apply h.away s.driver.address_interrupted
      · intro _
        exact .inl hphase
      · simp [phase_interrupted hphase]
      · simp [Episode.exchanges, Exchange.fetched, Exchange.failed]
      · simp [Stores, measured_not_mem_interruption]
  | writeBaseline hwritten =>
    cases hwritten with
    | idle => exact h.still rfl rfl rfl (by simp [Stores])
    | refused hphase | written hphase =>
      apply h.away s.driver.address_interrupted
      · intro _
        exact .inl hphase
      · simp [phase_interrupted hphase]
      · simp [Episode.exchanges, Exchange.wrote, Exchange.failed]
      · simp [Stores, measured_not_mem_interruption]

/-- The invariant holds after every history that starts with a new driver and stays steady. -/
theorem pointed_history (address : UInt8) (interval : Micros) (mode : DriveMode) (bus : β)
    (calls : List Call)
    (hsteady : Steady (polled.history (create address interval mode) bus calls).past) :
    Pointed address (polled.history (create address interval mode) bus calls).past
      (polled.history (create address interval mode) bus calls).state := by
  revert hsteady
  apply History.invariant (fun past s => Steady past → Pointed address past s) attend_outcomes
  · intro past s c actions s' h hstep hsteady
    obtain ⟨hpast, hlater⟩ := (steady_concat _ _).mp hsteady
    exact (h hpast).step hstep hlater
  · intro _
    exact {
      address_eq := rfl
      ready := fun hphase => absurd rfl hphase
      selected := fun stage hstage => nomatch hstage
      reads := throughout_nil _
      stores := throughout_nil _ }

/-- Over every bus and every order of calls in which no set-up fails after one has succeeded: each
bare read asks for eight bytes with the result register selected by the last acknowledged
transaction, and each reading stored is the first four bytes of such a read, made in the same call,
whose status byte has no error and announces data. -/
theorem result_read_from_result_register (address : UInt8) (interval : Micros) (mode : DriveMode)
    (bus : β) (calls : List Call)
    (hsteady : Steady (polled.history (create address interval mode) bus calls).past) :
    let past := (polled.history (create address interval mode) bus calls).past
    Throughout (ReadsResult address) (traffic past) ∧
      Throughout (fun earlier => StoresResult address (traffic earlier)) past := by
  have hpointed := pointed_history address interval mode bus calls hsteady
  exact ⟨hpointed.reads, hpointed.stores⟩

/-- A bus with nothing on it but a CCS811 that has published a result. -/
def loneBus : SimulatedBus :=
  { SimulatedBus.empty with ccs811 := some (Model.standard.publish 450 12) }

/-- After a set-up and a trigger the device has its result selected, and the next update reads and
stores it. -/
theorem result_read_undisturbed :
    let h := polled.history (create 0x5A 1000000 .constantPower1s) loneBus
      [.init 0, .update 1000000]
    let e := h.episode polled.attend (.update 1000001)
    Steady (h.past ++ [e]) ∧ Stores e ∧ Selected 0x5A (traffic h.past) := by
  intro h e
  have hsteady : Steady (h.past ++ [e]) := by
    simp [Steady, h, e, Polled.history, History.play, History.call, History.episode,
      History.start, Polled.Fails, polled, Call.initialised]
  have hstored : Stores e := .inr (.inl (by decide +kernel))
  obtain ⟨-, hstores⟩ := result_read_from_result_register 0x5A 1000000 .constantPower1s loneBus
    [.init 0, .update 1000000, .update 1000001] hsteady
  obtain ⟨bytes, -, hselected, -⟩ := hstores h.past e [] rfl hstored
  exact ⟨hsteady, hstored, hselected⟩

end AirStation.Ccs811.Driver
