import AirStation.Htu21d.Driver
import AirStation.Proofs.Bus.History

/-!
Everything a call on the HTU21D driver can do. `Init` and `Update` list the outcomes of one call,
each with its traffic, its reports and the driver it leaves; `step_always` says that the list is
complete.

All statements about the driver start from these lists. An outcome says under which phase it can
come up and what the answers were, so a proof about a call has one case for each of them and never
looks into the driver itself.
-/

namespace AirStation.Htu21d

/-- An answer whose third byte is the checksum of the other two, as the driver checks it. -/
def Intact (bytes : Vector UInt8 3) : Prop :=
  crc8 [bytes.get 0, bytes.get 1] = bytes.get 2

/-- The word in an answer, its higher byte first. The status bits are still in it. -/
def wordOf (bytes : Vector UInt8 3) : UInt16 :=
  Word.ofBytes (bytes.get 0) (bytes.get 1)

/-- A call on the driver, with the time at which it comes. -/
inductive Call where
  | init (now : Micros)
  | update (now : Micros)

namespace Driver

/-- What a call does on the bus. The answer of a set-up is left to the caller. -/
def step (d : Driver) : Call → SensorM Driver
  | .init now => Prod.snd <$> d.init now
  | .update now => d.update now

/-- The gate of the present phase is open, so an update has something to do. -/
def due (d : Driver) (now : Micros) : Bool :=
  match d.phase with
  | .idle => false
  | .waitingForInterval => d.timer.intervalElapsed now
  | .waitingForConversion stage => d.timer.waited now stage.conversionTime

/-- The outcomes of a set-up: the soft reset is refused and everything stays as it was, or the
driver is ready and its interval counts from now. -/
inductive Init (d : Driver) (now : Micros) :
    List (Action Event) → Except SensorError Unit × Driver → Prop where
  | refused (fault : Fault) :
    Init d now [.exchanged (.failed address (.write [softReset]) fault)]
      (.error (failure "soft reset" fault), d)
  | ready :
    Init d now
      [.exchanged (.wrote address [softReset]), .paused softResetMillis,
        .reported (.htu21dReady d.timer.interval)]
      (.ok (), { d with timer := d.timer.beginCycle now, phase := .waitingForInterval })

/-- The outcomes of an update: a closed gate; the trigger of the temperature; its result with the
trigger of the humidity; the result of the humidity. Every refusal, every spoilt answer and the lost
half has an outcome of its own. -/
inductive Update (d : Driver) (now : Micros) : List (Action Event) → Driver → Prop where
  | rested (hdue : d.due now = false) : Update d now [] d
  | started (hphase : d.phase = .waitingForInterval) (hdue : d.due now = true) :
    Update d now
      [.exchanged (.wrote address [Stage.temperature.command]),
        .reported (.conversionStarted .temperature)]
      { d with timer := (d.timer.beginCycle now).enterState now
               pendingTemperature := none
               phase := .waitingForConversion .temperature }
  | startRefused (hphase : d.phase = .waitingForInterval) (hdue : d.due now = true)
      (fault : Fault) :
    Update d now
      [.exchanged (.failed address (.write [Stage.temperature.command]) fault),
        .reported (.cycleAbandoned .htu21d
          (failure Stage.temperature.triggerOperation fault))]
      { d with timer := d.timer.beginCycle now
               pendingTemperature := none
               phase := .waitingForInterval }
  | unread (stage : Stage) (hphase : d.phase = .waitingForConversion stage)
      (hdue : d.due now = true) (fault : Fault) :
    Update d now
      [.exchanged (.failed address (.read 3) fault),
        .reported (.cycleAbandoned .htu21d (failure stage.readOperation fault))]
      { d with pendingTemperature := none, phase := .waitingForInterval }
  | spoilt (stage : Stage) (hphase : d.phase = .waitingForConversion stage)
      (hdue : d.due now = true) (bytes : Vector UInt8 3) (hbytes : ¬ Intact bytes) :
    Update d now
      [.exchanged (.received address bytes),
        .reported (.cycleAbandoned .htu21d
          (.checksum Sensor.htu21d.name stage.readOperation))]
      { d with pendingTemperature := none, phase := .waitingForInterval }
  | halfway (hphase : d.phase = .waitingForConversion .temperature) (hdue : d.due now = true)
      (bytes : Vector UInt8 3) (hbytes : Intact bytes) :
    Update d now
      [.exchanged (.received address bytes),
        .exchanged (.wrote address [Stage.humidity.command]),
        .reported (.conversionStarted .humidity)]
      { d with timer := d.timer.enterState now
               pendingTemperature := some (temperatureOfRaw (wordOf bytes))
               phase := .waitingForConversion .humidity }
  | halfwayRefused (hphase : d.phase = .waitingForConversion .temperature)
      (hdue : d.due now = true) (bytes : Vector UInt8 3) (hbytes : Intact bytes)
      (fault : Fault) :
    Update d now
      [.exchanged (.received address bytes),
        .exchanged (.failed address (.write [Stage.humidity.command]) fault),
        .reported (.cycleAbandoned .htu21d (failure Stage.humidity.triggerOperation fault))]
      { d with pendingTemperature := none, phase := .waitingForInterval }
  | measured (hphase : d.phase = .waitingForConversion .humidity) (hdue : d.due now = true)
      (bytes : Vector UInt8 3) (hbytes : Intact bytes) (temperature : Float32)
      (hpending : d.pendingTemperature = some temperature) :
    Update d now
      [.exchanged (.received address bytes),
        .reported (.htu21dMeasured ⟨temperature, humidityOfRaw (wordOf bytes)⟩)]
      { phase := .waitingForInterval
        timer := d.timer.recordSuccess now
        pendingTemperature := none
        latest := some ⟨temperature, humidityOfRaw (wordOf bytes)⟩ }
  | dropped (hphase : d.phase = .waitingForConversion .humidity) (hdue : d.due now = true)
      (bytes : Vector UInt8 3) (hbytes : Intact bytes)
      (hpending : d.pendingTemperature = none) :
    Update d now [.exchanged (.received address bytes)]
      { d with pendingTemperature := none, phase := .waitingForInterval }

def Step (d : Driver) : Call → List (Action Event) → Driver → Prop
  | .init now => fun actions d' => ∃ result, d.Init now actions (result, d')
  | .update now => d.Update now

theorem init_always (d : Driver) (now : Micros) : (d.init now).Always (d.Init now) := by
  rw [init, BusM.always_bind, Device.always_write]
  constructor
  · exact .ready
  · intro fault
    exact .refused fault

/-- A trigger is acknowledged and its conversion time runs, or the cycle is given up with a
warning. -/
theorem trigger_always {d : Driver} {stage : Stage} {now : Micros}
    {post : List (Action Event) → Driver → Prop}
    (hstarted : post
      [.exchanged (.wrote address [stage.command]), .reported (.conversionStarted stage)]
      { d with timer := d.timer.enterState now, phase := .waitingForConversion stage })
    (hrefused : ∀ fault, post
      [.exchanged (.failed address (.write [stage.command]) fault),
        .reported (.cycleAbandoned .htu21d (failure stage.triggerOperation fault))]
      { d with pendingTemperature := none, phase := .waitingForInterval }) :
    (d.trigger stage now).Always post := by
  rw [trigger, BusM.always_bind, Device.always_write]
  exact ⟨hstarted, hrefused⟩

/-- A word is only taken from an intact answer; otherwise there is an error that names the read. -/
theorem readStage_always {stage : Stage}
    {post : List (Action Event) → Except SensorError UInt16 → Prop}
    (hintact : ∀ bytes, Intact bytes →
      post [.exchanged (.received address bytes)] (.ok (wordOf bytes)))
    (hspoilt : ∀ bytes, ¬ Intact bytes →
      post [.exchanged (.received address bytes)]
        (.error (.checksum Sensor.htu21d.name stage.readOperation)))
    (hunread : ∀ fault, post [.exchanged (.failed address (.read 3) fault)]
      (.error (failure stage.readOperation fault))) :
    (readStage stage).Always post := by
  rw [readStage, BusM.always_bind, Device.always_read]
  refine ⟨?_, hunread⟩
  intro bytes
  by_cases hbytes : Intact bytes
  · have hchecked : checked stage bytes = .ok (wordOf bytes) := if_pos hbytes
    simpa [hchecked] using hintact bytes hbytes
  · have hchecked : checked stage bytes =
        .error (.checksum Sensor.htu21d.name stage.readOperation) := if_neg hbytes
    simpa [hchecked] using hspoilt bytes hbytes

/-- An update has one of the listed outcomes, whatever the bus answers. -/
theorem update_always (d : Driver) (now : Micros) : (d.update now).Always (d.Update now) := by
  unfold update
  cases hphase : d.phase with
  | idle => exact .rested (by simp [due, hphase])
  | waitingForInterval =>
    by_cases hdue : d.timer.intervalElapsed now
    · simp only [hdue, if_true]
      apply trigger_always
      · exact .started hphase (by simp [due, hphase, hdue])
      · intro fault
        exact .startRefused hphase (by simp [due, hphase, hdue]) fault
    · simp only [hdue]
      exact .rested (by simp [due, hphase, hdue])
  | waitingForConversion stage =>
    by_cases hwaited : d.timer.waited now stage.conversionTime
    · have hdue : d.due now = true := by simp [due, hphase, hwaited]
      simp only [hwaited, if_true]
      rw [collect, BusM.always_bind]
      apply readStage_always
      · intro bytes hbytes
        cases stage with
        | temperature =>
          apply trigger_always
          · exact .halfway hphase hdue bytes hbytes
          · intro fault
            exact .halfwayRefused hphase hdue bytes hbytes fault
        | humidity =>
          simp only [complete]
          cases hpending : d.pendingTemperature with
          | none => exact .dropped hphase hdue bytes hbytes hpending
          | some temperature => exact .measured hphase hdue bytes hbytes temperature hpending
      · intro bytes hbytes
        exact .spoilt stage hphase hdue bytes hbytes
      · intro fault
        exact .unread stage hphase hdue fault
    · simp only [hwaited]
      exact .rested (by simp [due, hphase, hwaited])

theorem step_always (d : Driver) (c : Call) : (d.step c).Always (d.Step c) := by
  cases c with
  | init now => exact (d.init_always now).snd
  | update now => exact d.update_always now

theorem init_does (d : Driver) (now : Micros) : (d.init now).Does (·.To (· = address)) := by
  apply BusM.Does.of_always (d.init_always now)
  intro actions outcome h
  cases h <;> simp

theorem update_does (d : Driver) (now : Micros) : (d.update now).Does (·.To (· = address)) := by
  apply BusM.Does.of_always (d.update_always now)
  intro actions d' h
  cases h <;> simp

end Driver

end AirStation.Htu21d
