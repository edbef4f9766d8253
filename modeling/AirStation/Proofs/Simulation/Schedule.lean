import AirStation.Proofs.Bme68x.Delivery
import AirStation.Proofs.Ccs811.Delivery
import AirStation.Proofs.Htu21d.Device
import AirStation.Proofs.Sensor.Progress
import AirStation.Proofs.Simulated.Furnished
import AirStation.Proofs.Simulation.Timetable
import AirStation.Proofs.Station.HandOver

/-!
The timetables of the three sensors. `Scheduled` says that a driver is on time and that its device
is ready for what comes next; an update over genuine answers is a step of the timetable and keeps
the two in this state. How many transactions it takes follows from the tick (`visits`).

The ticks are those of the standard configuration. Its intervals and conversion times are not all
multiples of a tick: the BME68x is ready 132.775 ms after its trigger and read at 140 ms, the HTU21D
after 50 and 16 ms, read at 50 and 70 ms. For each driver there are two lemmas. `Update.step`
compares an update with the timetable, and `Update.scheduled` carries the state of driver and device
to the next tick.
-/

namespace AirStation

open Simulation (instant)

namespace Htu21d

/-- Once a second, 50 ms for the temperature and, in whole ticks, 20 ms for the humidity, which is
triggered when the temperature is read. -/
def timetable : Timetable Stage where
  period := 100
  begins
    | .temperature => 0
    | .humidity => 5
  ends
    | .temperature => 5
    | .humidity => 7
  first := .temperature
  last := .humidity
  begins_first := rfl
  begins_lt_ends stage := by cases stage <;> decide
  ends_le_last stage := by cases stage <;> decide
  last_lt_period := by decide
  apart stage other := by cases stage <;> cases other <;> simp

/-- The transactions of the HTU21D in a tick: the trigger; the first result with the second trigger;
the second result. Out of reach the trigger is attempted all the same. -/
def visits (up : Nat → Bool) (n : Nat) : Nat :=
  if timetable.Starts n then 1
  else if timetable.Collects up .temperature n then 2
  else if timetable.Collects up .humidity n then 1
  else 0

namespace Model

theorem corrupt_receive (m : Model) (bytes : List UInt8) :
    (Responder.receive m bytes).corrupt = m.corrupt := by
  simp only [Responder.receive, receive]
  split <;> rfl

theorem corrupt_serve (m : Model) (transfer : Transfer) :
    (Responder.serve m transfer).2.corrupt = m.corrupt := by
  cases transfer with
  | write bytes => exact m.corrupt_receive bytes
  | read count => rfl
  | writeRead bytes count => exact m.corrupt_receive bytes

end Model

namespace Driver

theorem fits {d : Driver} (hinterval : d.timer.interval = instant 100) :
    timetable.Fits (polled.rhythm d) where
  interval := hinterval
  gate stage elapsed hbegun hrunning := by
    cases stage with
    | temperature =>
      have hle : elapsed ≤ 5 := hrunning
      show 50 * 1000 ≤ 10 * (elapsed - 0) * 1000 ↔ elapsed = 5
      omega
    | humidity =>
      have hle : elapsed ≤ 7 := hrunning
      show 16 * 1000 ≤ 10 * (elapsed - 5) * 1000 ↔ elapsed = 7
      omega

/-- The driver before a tick, with the device that it reads. It has the temperature to pair with a
humidity, and the device sends no bytes that its checksum would not fit. -/
structure Scheduled (up : Nat → Bool) (n : Nat) (d : Driver) (m : Model) : Prop where
  onTime : timetable.OnTime up n (polled.rhythm d) d.memory
  half : d.HoldsHalf
  intact : m.corrupt = false

section Update

variable {up : Nat → Bool} {n : Nat} {d d' : Driver} {m : Model} {actions : List (Action Event)}
  (h : d.Update (instant n) actions d') (hd : d.Scheduled up n m)
  (hsteady : timetable.Steady up)
  (hanswers : Answers (up n) address m (actions.filterMap Action.exchange?))

include h hd hsteady hanswers

/-- The update in a tick is a step of the timetable: it begins, reads and complains when this says
so, and makes the transactions that belong to the tick. -/
theorem Update.step : timetable.Step up .htu21d n (polled.rhythm d) d.memory
    (complaintsIn actions) (polled.rhythm d') d'.memory ∧
    (actions.filterMap Action.exchange?).length = visits up n := by
  obtain ⟨⟨hplace, hfits, -, -⟩, hhalf, hintact⟩ := hd
  obtain ⟨hreached, hgenuine⟩ := hanswers
  have hopen := isOpen_rhythm d (instant n)
  cases h with
  | rested hdue =>
    obtain ⟨hstarts, hcollects⟩ := hplace.of_closed hfits hsteady (hopen.trans hdue)
    exact ⟨.rests (hopen.trans hdue), by simp [visits, hstarts, hcollects]⟩
  | started hphase hdue =>
    have hup : true = up n := hreached _ List.mem_cons_self
    have hstarts := (hplace.of_waiting hfits hsteady hphase).1.mp (hopen.trans hdue)
    exact ⟨.starts hphase (hopen.trans hdue) hup.symm, by simp [visits, hstarts]⟩
  | startRefused hphase hdue fault =>
    have hdown : false = up n := hreached _ List.mem_cons_self
    have hstarts := (hplace.of_waiting hfits hsteady hphase).1.mp (hopen.trans hdue)
    exact ⟨.refused hphase (hopen.trans hdue) hdown.symm _, by simp [visits, hstarts]⟩
  | halfway hphase hdue bytes hbytes =>
    obtain ⟨hgate, hstarts, -, -⟩ := hplace.of_converting hfits hsteady hphase
    have hcollects := hgate.mp (hopen.trans hdue)
    exact ⟨.advances hphase (hopen.trans hdue) rfl, by simp [visits, hstarts, hcollects]⟩
  | measured hphase hdue =>
    obtain ⟨hgate, hstarts, hother, -⟩ := hplace.of_converting hfits hsteady hphase
    have hcollects := hgate.mp (hopen.trans hdue)
    have hfirst : ¬ timetable.Collects up .temperature n := fun hfirst => nomatch hother _ hfirst
    exact ⟨.stores hphase (hopen.trans hdue) _, by simp [visits, hstarts, hfirst, hcollects]⟩
  | dropped hphase hdue bytes hbytes hpending => simpa [hpending] using hhalf hphase
  | spoilt stage hphase hdue bytes hbytes =>
    obtain rfl : bytes = _ := by simpa using hgenuine
    exact absurd (m.intact_answer.mpr hintact) hbytes
  -- Within a cycle the device stays in reach.
  | unread stage hphase hdue fault =>
    have hup := (hplace.of_converting hfits hsteady hphase).2.2.2
    simp [hup] at hreached
  | halfwayRefused hphase hdue bytes hbytes fault =>
    have hup := (hplace.of_converting hfits hsteady hphase).2.2.2
    simp [hup] at hreached

/-- After the update the driver is scheduled for the next tick, with the device as the transactions
have left it. -/
theorem Update.scheduled :
    d'.Scheduled up (n + 1) ((actions.filterMap Action.exchange?).foldl (served address) m) where
  onTime := hd.onTime.step hsteady (h.step hd hsteady hanswers).1
  half := (Attends.update (s := ⟨d, none⟩) h).holdsHalf hd.half
  intact := by
    have hkeeps : ∀ action ∈ actions, action.Keeps address Model.corrupt := by
      intro action _
      cases action with
      | exchanged e => exact Action.keeps_of_serve fun m => m.corrupt_serve e.transfer
      | paused | reported => trivial
    exact (foldl_served_eq hkeeps m).trans hd.intact

end Update

end Driver

end Htu21d

namespace Ccs811

/-- Once a second; the result is read one tick after it is selected, since no conversion has to be
waited for. -/
def timetable : Timetable Stage where
  period := 100
  begins _ := 0
  ends _ := 1
  first := .algorithmResult
  last := .algorithmResult
  begins_first := rfl
  begins_lt_ends _ := by decide
  ends_le_last _ := by decide
  last_lt_period := by decide
  apart _ _ _ _ := rfl

/-- The transactions of the CCS811 in a tick: the selection, after the climate if one is owed to the
device; the result. If the climate is refused, nothing is selected. -/
def visits (up owed : Nat → Bool) (n : Nat) : Nat :=
  if timetable.Starts n then if up n && owed n then 2 else 1
  else if timetable.Collects up .algorithmResult n then 1
  else 0

theorem Model.errorId_serve (m : Model) (transfer : Transfer) :
    (Responder.serve m transfer).2.errorId = m.errorId := by
  have hreceive (bytes : List UInt8) : (Responder.receive m bytes).errorId = m.errorId :=
    congrArg (·.2.2.2) (m.measured_receive bytes)
  have hanswer (m : Model) (count : Nat) : (Responder.answer m count).2.errorId = m.errorId := by
    simp only [Responder.answer]
    split <;> rfl
  cases transfer with
  | write bytes => exact hreceive bytes
  | read count => exact hanswer m count
  | writeRead bytes count => exact (hanswer _ count).trans (hreceive bytes)

@[simp] theorem Model.dataReady_receive (m : Model) (bytes : List UInt8) :
    (Responder.receive m bytes).dataReady = m.dataReady :=
  congrArg (·.2.2.1) (m.measured_receive bytes)

namespace Driver

theorem fits {d : Driver} (hinterval : d.timer.interval = instant 100) :
    timetable.Fits (polled.rhythm d) where
  interval := hinterval
  gate stage elapsed hbegun hrunning := by
    have hle : elapsed ≤ 1 := hrunning
    have hlt : 0 < elapsed := hbegun
    show 0 ≤ 10 * (elapsed - 0) * 1000 ↔ elapsed = 1
    omega

/-- The driver before a tick. The device has no error to report, and shows a new result while one is
waited for. -/
structure Scheduled (up : Nat → Bool) (n : Nat) (d : Driver) (m : Model) : Prop where
  onTime : timetable.OnTime up n (polled.rhythm d) d.memory
  healthy : m.errorId = 0
  shown : ∀ stage, d.phase = .waitingForConversion stage →
    m.pointer = Register.result ∧ m.dataReady = true

section Update

variable {up : Nat → Bool} {n : Nat} {d d' : Driver} {m : Model} {actions : List (Action Event)}
  (h : d.Update (instant n) actions d') (hd : d.Scheduled up n m)
  (hsteady : timetable.Steady up)
  (hanswers : Answers (up n) d.address m (actions.filterMap Action.exchange?))

include h hd hsteady hanswers

/-- The update in a tick is a step of the timetable. A pending climate adds a transaction to the
beginning of a cycle and changes neither its times nor its complaints. -/
theorem Update.step : timetable.Step up .ccs811 n (polled.rhythm d) d.memory
    (complaintsIn actions) (polled.rhythm d') d'.memory ∧
    (actions.filterMap Action.exchange?).length =
      visits up (fun _ => d.pendingEnvironment.isSome) n := by
  obtain ⟨⟨hplace, hfits, -, -⟩, hhealthy, hshown⟩ := hd
  obtain ⟨hreached, hgenuine⟩ := hanswers
  have hopen := isOpen_rhythm d (instant n)
  cases h with
  | rested hdue =>
    obtain ⟨hstarts, hcollects⟩ := hplace.of_closed hfits hsteady (hopen.trans hdue)
    exact ⟨.rests (hopen.trans hdue), by simp [visits, hstarts, hcollects]⟩
  | selected hphase hdue hpending =>
    have hup : true = up n := hreached _ List.mem_cons_self
    have hstarts := (hplace.of_waiting hfits hsteady hphase).1.mp (hopen.trans hdue)
    exact ⟨.starts hphase (hopen.trans hdue) hup.symm, by simp [visits, hstarts, hpending]⟩
  | selectRefused hphase hdue hpending fault =>
    have hdown : false = up n := hreached _ List.mem_cons_self
    have hstarts := (hplace.of_waiting hfits hsteady hphase).1.mp (hopen.trans hdue)
    exact ⟨.refused hphase (hopen.trans hdue) hdown.symm _, by simp [visits, hstarts, hpending]⟩
  | told hphase hdue environment hpending =>
    have hup : true = up n := hreached _ List.mem_cons_self
    have hstarts := (hplace.of_waiting hfits hsteady hphase).1.mp (hopen.trans hdue)
    exact ⟨.starts hphase (hopen.trans hdue) hup.symm,
      by simp [visits, hstarts, hpending, ← hup]⟩
  | toldSelectRefused hphase hdue environment hpending fault =>
    simp only [Action.exchanges_exchanged, List.forall_mem_cons] at hreached
    obtain ⟨hup, hdown, -⟩ := hreached
    exact absurd (hdown.trans hup.symm) Bool.false_ne_true
  | untold hphase hdue environment hpending fault =>
    have hdown : false = up n := hreached _ List.mem_cons_self
    have hstarts := (hplace.of_waiting hfits hsteady hphase).1.mp (hopen.trans hdue)
    exact ⟨.refused hphase (hopen.trans hdue) hdown.symm _, by simp [visits, hstarts, ← hdown]⟩
  | measured stage hphase hdue bytes hbytes hfresh =>
    obtain ⟨hgate, hstarts, -, -⟩ := hplace.of_converting hfits hsteady hphase
    have hcollects := hgate.mp (hopen.trans hdue)
    exact ⟨.stores hphase (hopen.trans hdue) _, by simp [visits, hstarts, hcollects]⟩
  | erroneous stage hphase hdue bytes hbytes =>
    obtain rfl : bytes = _ := by simpa using hgenuine
    exact absurd hbytes (Model.not_erroneous_answer hhealthy)
  | nothingNew stage hphase hdue bytes hbytes hfresh =>
    obtain rfl : bytes = _ := by simpa using hgenuine
    exact absurd ((Model.fresh_answer hhealthy).mpr (hshown stage hphase)) hfresh
  | unread stage hphase hdue fault =>
    have hup := (hplace.of_converting hfits hsteady hphase).2.2.2
    simp [hup] at hreached

/-- The climate is told at the beginning of a cycle within reach, if one is pending, and is pending
no longer. In every other tick it stays as it is. -/
theorem Update.tells :
    Station.toldIn (Station.movesOf d.address actions) =
        (if timetable.Starts n ∧ up n = true then
          (d.pendingEnvironment.map Vector.toList).toList else []) ∧
      d'.pendingEnvironment =
        if timetable.Starts n ∧ up n = true then none else d.pendingEnvironment := by
  obtain ⟨⟨hplace, hfits, -, -⟩, -, -⟩ := hd
  obtain ⟨hreached, -⟩ := hanswers
  have hopen := isOpen_rhythm d (instant n)
  cases h with
  | rested hdue =>
    obtain ⟨hstarts, -⟩ := hplace.of_closed hfits hsteady (hopen.trans hdue)
    simp [hstarts, Station.toldIn]
  | selected hphase hdue hpending =>
    simp [hpending, Station.toldIn, Register.result, Register.environment]
  | selectRefused hphase hdue hpending fault =>
    simp [hpending, Station.toldIn, Station.storedBy?]
  | told hphase hdue environment hpending =>
    have hup : true = up n := hreached _ List.mem_cons_self
    have hstarts := (hplace.of_waiting hfits hsteady hphase).1.mp (hopen.trans hdue)
    simp [hpending, hstarts, ← hup, Station.toldIn, Station.Move.payload?, Register.result,
      Register.environment]
  | toldSelectRefused hphase hdue environment hpending fault =>
    simp only [Action.exchanges_exchanged, List.forall_mem_cons] at hreached
    obtain ⟨hup, hdown, -⟩ := hreached
    exact absurd (hdown.trans hup.symm) Bool.false_ne_true
  | untold hphase hdue environment hpending fault =>
    have hdown : false = up n := hreached _ List.mem_cons_self
    simp [hpending, ← hdown, Station.toldIn, Station.storedBy?]
  | unread stage hphase | erroneous stage hphase | nothingNew stage hphase
  | measured stage hphase =>
    have hstarts := (hplace.of_converting hfits hsteady hphase).2.1
    simp [hstarts, Station.toldIn, Station.storedBy?]

/-- After the update the driver is scheduled for the next tick, if the device has a new result
whenever a cycle begins. -/
theorem Update.scheduled (hready : timetable.Starts n → m.dataReady = true) :
    d'.Scheduled up (n + 1)
      ((actions.filterMap Action.exchange?).foldl (served d.address) m) where
  onTime := hd.onTime.step hsteady (h.step hd hsteady hanswers).1
  healthy := by
    have hkeeps : ∀ action ∈ actions, action.Keeps d.address Model.errorId := by
      intro action _
      cases action with
      | exchanged e => exact Action.keeps_of_serve fun m => m.errorId_serve e.transfer
      | paused | reported => trivial
    exact (foldl_served_eq hkeeps m).trans hd.healthy
  shown := by
    obtain ⟨⟨hplace, hfits, -, -⟩, -, hshown⟩ := hd
    have hopen := isOpen_rhythm d (instant n)
    cases h with
    | rested hdue => exact hshown
    | selected hphase hdue =>
      have hstarts := (hplace.of_waiting hfits hsteady hphase).1.mp (hopen.trans hdue)
      intro _ _
      simp [hready hstarts]
    | told hphase hdue =>
      have hstarts := (hplace.of_waiting hfits hsteady hphase).1.mp (hopen.trans hdue)
      intro _ _
      simp [hready hstarts]
    | selectRefused | toldSelectRefused | untold | unread | erroneous | nothingNew | measured =>
      exact fun _ hphase => nomatch hphase

end Update

end Driver

end Ccs811

namespace Bme68x

/-- Every three seconds; by the standard settings a measurement takes 132.775 ms, which is over in
the fourteenth tick. -/
def timetable : Timetable Stage where
  period := 300
  begins _ := 0
  ends _ := 14
  first := .measurement
  last := .measurement
  begins_first := rfl
  begins_lt_ends _ := by decide
  ends_le_last _ := by decide
  last_lt_period := by decide
  apart _ _ _ _ := rfl

/-- The transactions of the BME68x in a tick: the trigger, or the burst that reads its fields. -/
def visits (up : Nat → Bool) (n : Nat) : Nat :=
  if timetable.Starts n then 1
  else if timetable.Collects up .measurement n then 1
  else 0

namespace Driver

theorem fits {d : Driver} (hinterval : d.timer.interval = instant 300)
    (hsettings : d.settings = .standard) : timetable.Fits (polled.rhythm d) where
  interval := hinterval
  gate stage elapsed hbegun hrunning := by
    have hle : elapsed ≤ 14 := hrunning
    have hconversion : d.settings.conversionTime = 132775 := by
      rw [hsettings]
      decide +kernel
    show d.settings.conversionTime ≤ 10 * (elapsed - 0) * 1000 ↔ elapsed = 14
    rw [hconversion]
    show (132775 : Nat) ≤ 10 * (elapsed - 0) * 1000 ↔ elapsed = 14
    omega

theorem complaintsIn_skipped (d : Driver) (fields : List RawField) :
    complaintsIn ((d.skipped fields).map .reported) = [] := by
  simp only [skipped, List.map_map]
  induction fields.filter (!·.has d.settings.requiredMask) with
  | nil => rfl
  | cons field rest ih => exact ih

/-- The driver waits for fields of which it will accept one. They are on the device's tray while the
measurement runs. -/
def Awaits (d : Driver) (t : Tray) : Prop :=
  ∀ stage, d.phase = .waitingForConversion stage →
    ∃ fields, t.latched = some fields ∧ (newest .standard fields).isSome

/-- The driver before a tick, with the device, the part that it has found in it, and the tray with
the fields. -/
structure Scheduled (up : Nat → Bool) (n : Nat) (d : Driver) (m : Model) : Prop where
  onTime : timetable.OnTime up n (polled.rhythm d) d.memory
  supplied : ∃ part t, Supplied .standard part t d m ∧ d.Awaits t

section Update

variable {up : Nat → Bool} {n : Nat} {d d' : Driver} {m : Model} {actions : List (Action Event)}
  (h : d.Update (instant n) actions d') (hd : d.Scheduled up n m)
  (hsteady : timetable.Steady up)
  (hanswers : Answers (up n) d.address m (actions.filterMap Action.exchange?))

include h hd hsteady hanswers

/-- The update in a tick is a step of the timetable: of the fields on the tray the newest accepted
one becomes the reading. -/
theorem Update.step : timetable.Step up .bme68x n (polled.rhythm d) d.memory
    (complaintsIn actions) (polled.rhythm d') d'.memory ∧
    (actions.filterMap Action.exchange?).length = visits up n := by
  obtain ⟨⟨hplace, hfits, -, -⟩, part, t, hsupplied, hawaits⟩ := hd
  obtain ⟨hreached, hgenuine⟩ := hanswers
  have hopen := isOpen_rhythm d (instant n)
  cases h with
  | rested hdue =>
    obtain ⟨hstarts, hcollects⟩ := hplace.of_closed hfits hsteady (hopen.trans hdue)
    exact ⟨.rests (hopen.trans hdue), by simp [visits, hstarts, hcollects]⟩
  | started hphase hdue =>
    have hup : true = up n := hreached _ List.mem_cons_self
    have hstarts := (hplace.of_waiting hfits hsteady hphase).1.mp (hopen.trans hdue)
    exact ⟨.starts hphase (hopen.trans hdue) hup.symm, by simp [visits, hstarts]⟩
  | startRefused hphase hdue fault =>
    have hdown : false = up n := hreached _ List.mem_cons_self
    have hstarts := (hplace.of_waiting hfits hsteady hphase).1.mp (hopen.trans hdue)
    exact ⟨.refused hphase (hopen.trans hdue) hdown.symm _, by simp [visits, hstarts]⟩
  | measured stage hphase hdue bytes reading hfields =>
    obtain ⟨hgate, hstarts, -, -⟩ := hplace.of_converting hfits hsteady hphase
    have hcollects := hgate.mp (hopen.trans hdue)
    have hcalm : complaintsIn (.exchanged (.fetched d.address Register.fields bytes) ::
        ((d.skipped (d.fieldsOf bytes)).map .reported ++
          [.reported (.bme68xMeasured reading)])) = [] := by
      simp [d.complaintsIn_skipped, Event.complains, Event.level, Level.rank]
    rw [hcalm]
    refine ⟨.stores hphase (hopen.trans hdue) reading, ?_⟩
    simp [visits, hstarts, hcollects, Function.comp_def]
  | nothingNew stage hphase hdue bytes hfields =>
    obtain ⟨fields, hlatched, hshows⟩ := hsupplied.shows stage hphase
    obtain ⟨_, hlatched', hnewest⟩ := hawaits stage hphase
    obtain rfl := Option.some.inj (hlatched.symm.trans hlatched')
    obtain rfl : bytes = m.block Register.fields _ := by
      simpa [Function.comp_def] using hgenuine
    rw [newest?_burst hsupplied.knows hshows, hsupplied.settings_eq, newestReading,
      Option.map_eq_none_iff] at hfields
    simp [hfields] at hnewest
  | unread stage hphase hdue fault =>
    have hup := (hplace.of_converting hfits hsteady hphase).2.2.2
    simp [hup] at hreached

/-- After the update the driver is scheduled for the next tick, if an acceptable field is staged
whenever a cycle begins. -/
theorem Update.scheduled (hstaged : timetable.Starts n → (newest .standard m.staged).isSome) :
    d'.Scheduled up (n + 1)
      ((actions.filterMap Action.exchange?).foldl (served d.address) m) where
  onTime := hd.onTime.step hsteady (h.step hd hsteady hanswers).1
  supplied := by
    obtain ⟨⟨hplace, hfits, -, -⟩, part, t, hsupplied, hawaits⟩ := hd
    have hopen := isOpen_rhythm d (instant n)
    refine ⟨part, _, h.supplied hsupplied, ?_⟩
    cases h with
    | rested hdue => exact hawaits
    | started hphase hdue =>
      have hstarts := (hplace.of_waiting hfits hsteady hphase).1.mp (hopen.trans hdue)
      intro _ _
      refine ⟨t.staged, ?_, hsupplied.staged_eq ▸ hstaged hstarts⟩
      simp [t.exchanged_trigger d.address (measuring_mode d.settings)]
    | startRefused | unread | nothingNew | measured => exact fun _ hphase => nomatch hphase

end Update

end Driver

end Bme68x

end AirStation
