import AirStation.Ccs811.Driver
import AirStation.Proofs.Bus.History
import AirStation.Proofs.Sensor.Setup

/-!
Everything a call on the CCS811 driver can do. Each relation lists the outcomes of one operation
with their traffic, their reports, the result and the driver left; `step_always` says that the lists
are complete.

A pending climate doubles the outcomes of a trigger, since it is told before the result is selected.
A request for the baseline in the middle of a cycle gives this cycle up, because it moves the
pointer of the device away from the result (`interruption`, `interrupted`).
-/

namespace AirStation.Ccs811

/-- The status byte has its error bit set. -/
def Erroneous (bytes : Vector UInt8 8) : Prop :=
  bytes.get 4 &&& 0x01 ≠ 0

/-- The status byte announces a result. -/
def Fresh (bytes : Vector UInt8 8) : Prop :=
  bytes.get 4 &&& 0x08 ≠ 0

/-- The reading in the first four bytes of a result, each value with its higher byte first. -/
def readingOf (bytes : Vector UInt8 8) : Reading :=
  ⟨Word.ofBytes (bytes.get 0) (bytes.get 1), Word.ofBytes (bytes.get 2) (bytes.get 3)⟩

/-- A call on the driver. The station makes all of them, a user of the driver alone may make them in
any order. -/
inductive Call where
  | init (now : Micros)
  | update (now : Micros)
  | setEnvironment (temperature humidity : Float32)
  | readBaseline
  | writeBaseline (baseline : UInt16)

namespace Driver

/-- What a call does on the bus. The answers of a set-up and of requests for the baseline are left
to the caller. -/
def step (d : Driver) : Call → SensorM Driver
  | .init now => Prod.snd <$> d.init now
  | .update now => d.update now
  | .setEnvironment temperature humidity => return d.setEnvironment temperature humidity
  | .readBaseline => Prod.snd <$> d.readBaseline
  | .writeBaseline baseline => Prod.snd <$> d.writeBaseline baseline

/-- The gate of the present phase is open, so an update has something to do. -/
def due (d : Driver) (now : Micros) : Bool :=
  match d.phase with
  | .idle => false
  | .waitingForInterval => d.timer.intervalElapsed now
  | .waitingForConversion _ => d.timer.waited now resultWait

/-- The outcomes of a set-up, one for each step that can fail and one for the end. A driver that
could not be set up is as it was. -/
inductive Init (d : Driver) (now : Micros) :
    List (Action Event) → Except SensorError Unit × Driver → Prop where
  | unidentified (fault : Fault) :
    Init d now [.exchanged (.failed d.address (.writeRead [Register.hardwareId] 1) fault)]
      (.error (failure "read hardware id" fault), d)
  | mistaken (bytes : Vector UInt8 1) (hbytes : bytes.get 0 ≠ hardwareId) :
    Init d now [.exchanged (.fetched d.address Register.hardwareId bytes)]
      (.error (.unexpectedChipId Sensor.ccs811.name hardwareId (bytes.get 0)), d)
  | unstarted (bytes : Vector UInt8 1) (hbytes : bytes.get 0 = hardwareId) (fault : Fault) :
    Init d now
      [.exchanged (.fetched d.address Register.hardwareId bytes),
        .exchanged (.failed d.address (.write [Register.startApplication]) fault)]
      (.error (failure "start application" fault), d)
  | unset (bytes : Vector UInt8 1) (hbytes : bytes.get 0 = hardwareId) (fault : Fault) :
    Init d now
      [.exchanged (.fetched d.address Register.hardwareId bytes),
        .exchanged (.wrote d.address [Register.startApplication]), .paused startMillis,
        .exchanged (.failed d.address
          (.write [Register.measurementMode, d.mode.register]) fault)]
      (.error (failure "set measurement mode" fault), d)
  | ready (bytes : Vector UInt8 1) (hbytes : bytes.get 0 = hardwareId) :
    Init d now
      [.exchanged (.fetched d.address Register.hardwareId bytes),
        .exchanged (.wrote d.address [Register.startApplication]), .paused startMillis,
        .exchanged (.wrote d.address [Register.measurementMode, d.mode.register]),
        .reported (.ccs811Ready d.mode)]
      (.ok (), { d with timer := d.timer.beginCycle now, phase := .waitingForInterval })

/-- The outcomes of an update: a closed gate; the selection, with or without a climate before it;
the result. Every refusal, an error of the device and a result that is not new have outcomes of
their own. -/
inductive Update (d : Driver) (now : Micros) : List (Action Event) → Driver → Prop where
  | rested (hdue : d.due now = false) : Update d now [] d
  | selected (hphase : d.phase = .waitingForInterval) (hdue : d.due now = true)
      (hpending : d.pendingEnvironment = none) :
    Update d now [.exchanged (.wrote d.address [Register.result])]
      { d with pendingEnvironment := none
               timer := (d.timer.beginCycle now).enterState now
               phase := .waitingForConversion .algorithmResult }
  | selectRefused (hphase : d.phase = .waitingForInterval) (hdue : d.due now = true)
      (hpending : d.pendingEnvironment = none) (fault : Fault) :
    Update d now
      [.exchanged (.failed d.address (.write [Register.result]) fault),
        .reported (.cycleAbandoned .ccs811 (failure "select result register" fault))]
      { d with pendingEnvironment := none
               timer := d.timer.beginCycle now
               phase := .waitingForInterval }
  | told (hphase : d.phase = .waitingForInterval) (hdue : d.due now = true)
      (environment : Vector UInt8 4) (hpending : d.pendingEnvironment = some environment) :
    Update d now
      [.exchanged (.wrote d.address (Register.environment :: environment.toList)),
        .exchanged (.wrote d.address [Register.result])]
      { d with pendingEnvironment := none
               timer := (d.timer.beginCycle now).enterState now
               phase := .waitingForConversion .algorithmResult }
  | toldSelectRefused (hphase : d.phase = .waitingForInterval) (hdue : d.due now = true)
      (environment : Vector UInt8 4) (hpending : d.pendingEnvironment = some environment)
      (fault : Fault) :
    Update d now
      [.exchanged (.wrote d.address (Register.environment :: environment.toList)),
        .exchanged (.failed d.address (.write [Register.result]) fault),
        .reported (.cycleAbandoned .ccs811 (failure "select result register" fault))]
      { d with pendingEnvironment := none
               timer := d.timer.beginCycle now
               phase := .waitingForInterval }
  | untold (hphase : d.phase = .waitingForInterval) (hdue : d.due now = true)
      (environment : Vector UInt8 4) (hpending : d.pendingEnvironment = some environment)
      (fault : Fault) :
    Update d now
      [.exchanged (.failed d.address
          (.write (Register.environment :: environment.toList)) fault),
        .reported (.cycleAbandoned .ccs811 (failure "write environment data" fault))]
      { d with pendingEnvironment := some environment
               timer := d.timer.beginCycle now
               phase := .waitingForInterval }
  | unread (stage : Stage) (hphase : d.phase = .waitingForConversion stage)
      (hdue : d.due now = true) (fault : Fault) :
    Update d now
      [.exchanged (.failed d.address (.read 8) fault),
        .reported (.cycleAbandoned .ccs811 (failure "read algorithm result" fault))]
      { d with phase := .waitingForInterval }
  | erroneous (stage : Stage) (hphase : d.phase = .waitingForConversion stage)
      (hdue : d.due now = true) (bytes : Vector UInt8 8) (hbytes : Erroneous bytes) :
    Update d now
      [.exchanged (.received d.address bytes),
        .reported (.cycleAbandoned .ccs811 (.device Sensor.ccs811.name (bytes.get 5)))]
      { d with phase := .waitingForInterval }
  | nothingNew (stage : Stage) (hphase : d.phase = .waitingForConversion stage)
      (hdue : d.due now = true) (bytes : Vector UInt8 8) (hbytes : ¬ Erroneous bytes)
      (hfresh : ¬ Fresh bytes) :
    Update d now
      [.exchanged (.received d.address bytes), .reported (.nothingNew .ccs811)]
      { d with phase := .waitingForInterval }
  | measured (stage : Stage) (hphase : d.phase = .waitingForConversion stage)
      (hdue : d.due now = true) (bytes : Vector UInt8 8) (hbytes : ¬ Erroneous bytes)
      (hfresh : Fresh bytes) :
    Update d now
      [.exchanged (.received d.address bytes), .reported (.ccs811Measured (readingOf bytes))]
      { d with phase := .waitingForInterval
               timer := d.timer.recordSuccess now
               latest := some (readingOf bytes) }

/-- What a baseline access reports before it reaches the bus: that a conversion under way is given
up. -/
def interruption (d : Driver) : List (Action Event) :=
  match d.phase with
  | .waitingForConversion _ => [.reported .cycleInterrupted]
  | _ => []

/-- The driver whose conversion under way has been given up. It waits for its interval again. -/
def interrupted (d : Driver) : Driver :=
  match d.phase with
  | .waitingForConversion _ => { d with phase := .waitingForInterval }
  | _ => d

/-- The outcomes of reading the baseline. A driver that is not set up sends nothing. -/
inductive ReadBaseline (d : Driver) :
    List (Action Event) → Except SensorError UInt16 × Driver → Prop where
  | idle (hphase : d.phase = .idle) :
    ReadBaseline d [] (.error (.notInitialized Sensor.ccs811.name), d)
  | refused (hphase : d.phase ≠ .idle) (fault : Fault) :
    ReadBaseline d
      (d.interruption ++
        [.exchanged (.failed d.address (.writeRead [Register.baseline] 2) fault)])
      (.error (failure "read baseline" fault), d.interrupted)
  | read (hphase : d.phase ≠ .idle) (bytes : Vector UInt8 2) :
    ReadBaseline d
      (d.interruption ++ [.exchanged (.fetched d.address Register.baseline bytes)])
      (.ok (Word.ofBytes (bytes.get 0) (bytes.get 1)), d.interrupted)

/-- The outcomes of writing the baseline. A driver that is not set up sends nothing. -/
inductive WriteBaseline (d : Driver) (baseline : UInt16) :
    List (Action Event) → Except SensorError Unit × Driver → Prop where
  | idle (hphase : d.phase = .idle) :
    WriteBaseline d baseline [] (.error (.notInitialized Sensor.ccs811.name), d)
  | refused (hphase : d.phase ≠ .idle) (fault : Fault) :
    WriteBaseline d baseline
      (d.interruption ++
        [.exchanged (.failed d.address
          (.write (Register.baseline :: Word.bigEndian baseline)) fault)])
      (.error (failure "write baseline" fault), d.interrupted)
  | written (hphase : d.phase ≠ .idle) :
    WriteBaseline d baseline
      (d.interruption ++
        [.exchanged (.wrote d.address (Register.baseline :: Word.bigEndian baseline)),
          .reported (.baselineRestored baseline)])
      (.ok (), d.interrupted)

def Step (d : Driver) : Call → List (Action Event) → Driver → Prop
  | .init now => fun actions d' => ∃ result, d.Init now actions (result, d')
  | .update now => d.Update now
  | .setEnvironment temperature humidity => fun actions d' =>
    actions = [] ∧ d' = d.setEnvironment temperature humidity
  | .readBaseline => fun actions d' => ∃ result, d.ReadBaseline actions (result, d')
  | .writeBaseline baseline => fun actions d' =>
    ∃ result, d.WriteBaseline baseline actions (result, d')

theorem init_always (d : Driver) (now : Micros) : (d.init now).Always (d.Init now) := by
  rw [init, BusM.always_bind, start, always_setup_bind, always_attempt, Device.always_readByte]
  constructor
  · intro bytes
    by_cases hbytes : bytes.get 0 = hardwareId
    · simp only [hbytes, ne_eq, not_true_eq_false, if_false]
      rw [always_setup_bind, always_attempt, Device.always_write]
      constructor
      · dsimp only
        rw [always_setup_bind, always_settle, always_attempt, Device.writeRegister,
          Device.always_write]
        constructor
        · exact .ready bytes hbytes
        · intro fault
          exact .unset bytes hbytes fault
      · intro fault
        exact .unstarted bytes hbytes fault
    · simp only [ne_eq, hbytes, not_false_eq_true, if_true]
      exact .mistaken bytes hbytes
  · intro fault
    exact .unidentified fault

/-- The result register is selected and the wait begins, or the cycle is given up with a warning. -/
theorem select_always {d : Driver} {now : Micros}
    {post : List (Action Event) → Driver → Prop}
    (hselected : post [.exchanged (.wrote d.address [Register.result])]
      { d with timer := d.timer.enterState now
               phase := .waitingForConversion .algorithmResult })
    (hrefused : ∀ fault, post
      [.exchanged (.failed d.address (.write [Register.result]) fault),
        .reported (.cycleAbandoned .ccs811 (failure "select result register" fault))]
      { d with phase := .waitingForInterval }) :
    (d.select now).Always post := by
  rw [select, BusM.always_bind, Device.always_write]
  exact ⟨hselected, hrefused⟩

/-- A trigger has the outcomes of an update at the end of the interval, with the pending climate
first. -/
theorem trigger_always (d : Driver) (now : Micros) (hphase : d.phase = .waitingForInterval)
    (hdue : d.due now = true) :
    (trigger { d with timer := d.timer.beginCycle now } now).Always (d.Update now) := by
  unfold trigger
  cases hpending : d.pendingEnvironment with
  | none =>
    apply select_always
    · exact .selected hphase hdue hpending
    · intro fault
      exact .selectRefused hphase hdue hpending fault
  | some environment =>
    have hlength : environment.toList.length ≤ Device.maxBlockPayload := by
      simp [Device.maxBlockPayload]
    simp only [Device.writeBlock_eq_write hlength]
    rw [BusM.always_bind, Device.always_write]
    constructor
    · apply select_always
      · exact .told hphase hdue environment hpending
      · intro fault
        exact .toldSelectRefused hphase hdue environment hpending fault
    · intro fault
      exact .untold hphase hdue environment hpending fault

/-- A collection has the outcomes of an update at the end of the conversion. -/
theorem collect_always (d : Driver) (now : Micros) (stage : Stage)
    (hphase : d.phase = .waitingForConversion stage) (hdue : d.due now = true) :
    (d.collect now).Always (d.Update now) := by
  rw [collect, readResult, bind_assoc, BusM.always_bind, Device.always_read]
  constructor
  · intro bytes
    by_cases hbytes : Erroneous bytes
    · have hinterpret : interpret bytes = .error (.device Sensor.ccs811.name (bytes.get 5)) :=
        if_pos hbytes
      simp only [hinterpret, pure_bind]
      exact .erroneous stage hphase hdue bytes hbytes
    · by_cases hfresh : Fresh bytes
      · have hinterpret : interpret bytes = .ok (some (readingOf bytes)) :=
          (if_neg hbytes).trans (if_neg hfresh)
        simp only [hinterpret, pure_bind]
        exact .measured stage hphase hdue bytes hbytes hfresh
      · have hinterpret : interpret bytes = .ok none :=
          (if_neg hbytes).trans (if_pos (Decidable.not_not.mp hfresh))
        simp only [hinterpret, pure_bind]
        exact .nothingNew stage hphase hdue bytes hbytes hfresh
  · intro fault
    exact .unread stage hphase hdue fault

theorem update_always (d : Driver) (now : Micros) : (d.update now).Always (d.Update now) := by
  unfold update
  cases hphase : d.phase with
  | idle => exact .rested (by simp [due, hphase])
  | waitingForInterval =>
    by_cases helapsed : d.timer.intervalElapsed now
    · simp only [helapsed, if_true]
      exact d.trigger_always now hphase (by simp [due, hphase, helapsed])
    · simp only [helapsed]
      exact .rested (by simp [due, hphase, helapsed])
  | waitingForConversion stage =>
    by_cases hwaited : d.timer.waited now resultWait
    · simp only [hwaited, if_true]
      exact d.collect_always now stage hphase (by simp [due, hphase, hwaited])
    · simp only [hwaited]
      exact .rested (by simp [due, hphase, hwaited])

/-- Giving a conversion up is a report and a change of phase, and needs no transaction. -/
theorem interrupt_always (d : Driver) (post : List (Action Event) → Driver → Prop) :
    d.interrupt.Always post ↔ post d.interruption d.interrupted := by
  unfold interrupt interruption interrupted
  cases d.phase <;> rfl

@[simp] theorem address_interrupted (d : Driver) : d.interrupted.address = d.address := by
  unfold interrupted
  cases d.phase <;> rfl

@[simp] theorem timer_interrupted (d : Driver) : d.interrupted.timer = d.timer := by
  unfold interrupted
  cases d.phase <;> rfl

@[simp] theorem pendingEnvironment_interrupted (d : Driver) :
    d.interrupted.pendingEnvironment = d.pendingEnvironment := by
  unfold interrupted
  cases d.phase <;> rfl

@[simp] theorem latest_interrupted (d : Driver) : d.interrupted.latest = d.latest := by
  unfold interrupted
  cases d.phase <;> rfl

theorem phase_interrupted {d : Driver} (hphase : d.phase ≠ .idle) :
    d.interrupted.phase = .waitingForInterval := by
  unfold interrupted
  cases h : d.phase with
  | idle => exact absurd h hphase
  | waitingForInterval => exact h
  | waitingForConversion => rfl

@[simp] theorem exchanges_interruption (d : Driver) :
    d.interruption.filterMap Action.exchange? = [] := by
  unfold interruption
  cases d.phase <;> rfl

theorem readBaseline_always (d : Driver) : d.readBaseline.Always d.ReadBaseline := by
  unfold readBaseline
  cases hphase : d.phase with
  | idle => exact .idle hphase
  | waitingForInterval | waitingForConversion =>
    have hactive : d.phase ≠ .idle := by simp [hphase]
    simp only [BusM.always_bind, interrupt_always, Device.always_readRegister,
      address_interrupted]
    constructor
    · intro bytes
      exact .read hactive bytes
    · intro fault
      exact .refused hactive fault

theorem writeBaseline_always (d : Driver) (baseline : UInt16) :
    (d.writeBaseline baseline).Always (d.WriteBaseline baseline) := by
  unfold writeBaseline
  cases hphase : d.phase with
  | idle => exact .idle hphase
  | waitingForInterval | waitingForConversion =>
    have hactive : d.phase ≠ .idle := by simp [hphase]
    have hlength : (Word.bigEndian baseline).length ≤ Device.maxBlockPayload := by
      simp [Word.bigEndian, Device.maxBlockPayload]
    simp only [BusM.always_bind, interrupt_always, Device.writeBlock_eq_write hlength,
      Device.always_write, address_interrupted]
    constructor
    · exact .written hactive
    · intro fault
      exact .refused hactive fault

theorem Init.pendingEnvironment_eq {d d' : Driver} {now : Micros} {actions : List (Action Event)}
    {result : Except SensorError Unit} (h : d.Init now actions (result, d')) :
    d'.address = d.address ∧ d'.pendingEnvironment = d.pendingEnvironment := by
  cases h <;> exact ⟨rfl, rfl⟩

theorem ReadBaseline.pendingEnvironment_eq {d d' : Driver} {actions : List (Action Event)}
    {result : Except SensorError UInt16} (h : d.ReadBaseline actions (result, d')) :
    d'.address = d.address ∧ d'.pendingEnvironment = d.pendingEnvironment := by
  cases h <;> simp

theorem WriteBaseline.pendingEnvironment_eq {d d' : Driver} {baseline : UInt16}
    {actions : List (Action Event)} {result : Except SensorError Unit}
    (h : d.WriteBaseline baseline actions (result, d')) :
    d'.address = d.address ∧ d'.pendingEnvironment = d.pendingEnvironment := by
  cases h <;> simp

theorem Update.address_eq {d d' : Driver} {now : Micros} {actions : List (Action Event)}
    (h : d.Update now actions d') : d'.address = d.address := by
  cases h <;> rfl

theorem step_always (d : Driver) (c : Call) : (d.step c).Always (d.Step c) := by
  cases c with
  | init now => exact (d.init_always now).snd
  | update now => exact d.update_always now
  | setEnvironment temperature humidity => exact ⟨rfl, rfl⟩
  | readBaseline => exact d.readBaseline_always.snd
  | writeBaseline baseline => exact (d.writeBaseline_always baseline).snd

theorem init_does (d : Driver) (now : Micros) : (d.init now).Does (·.To (· = d.address)) := by
  apply BusM.Does.of_always (d.init_always now)
  intro actions outcome h
  cases h <;> simp

theorem update_does (d : Driver) (now : Micros) : (d.update now).Does (·.To (· = d.address)) := by
  apply BusM.Does.of_always (d.update_always now)
  intro actions d' h
  cases h <;> simp

theorem interruption_to (d : Driver) (p : UInt8 → Prop) :
    ∀ action ∈ d.interruption, action.To p := by
  unfold interruption
  cases d.phase <;> simp

theorem readBaseline_does (d : Driver) : d.readBaseline.Does (·.To (· = d.address)) := by
  apply BusM.Does.of_always d.readBaseline_always
  intro actions outcome h
  cases h with
  | idle => simp
  | refused | read => exact List.forall_mem_append.mpr ⟨d.interruption_to _, by simp⟩

theorem writeBaseline_does (d : Driver) (baseline : UInt16) :
    (d.writeBaseline baseline).Does (·.To (· = d.address)) := by
  apply BusM.Does.of_always (d.writeBaseline_always baseline)
  intro actions outcome h
  cases h with
  | idle => simp
  | refused | written => exact List.forall_mem_append.mpr ⟨d.interruption_to _, by simp⟩

end Driver

end AirStation.Ccs811
