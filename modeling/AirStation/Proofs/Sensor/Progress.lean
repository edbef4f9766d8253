import AirStation.Proofs.Sensor.Timing
import Mathlib.Data.List.Chain
import Mathlib.Data.List.Induction

/-!
No driver gets stuck. From every state of a driver that is set up, however it was reached, updates
that come late enough and meet nothing but good answers bring a fresh reading. A `Course` counts how
many updates the reading is still away; a good update stores it or comes one step closer, and
`Course.Lawful.stores` adds these steps up.

How the state was reached does not matter, so it may have been through failed cycles, interrupted
conversions and repeated set-ups. Good answers are asked for only from the moment on from which the
updates are counted, and only of the updates themselves.
-/

namespace AirStation

variable {β δ κ τ ρ : Type} [Bus β]

/-- The first time is an interval after the cycle began and a conversion after the phase began;
every later one is a conversion of any stage after the one before. Each of the updates then finds
its gate open. -/
structure Rhythm.Unhurried (r : Rhythm τ) (first : Micros) (later : List Micros) : Prop where
  interval : r.cycleStarted + r.interval ≤ first
  conversion : ∀ stage, r.phase = .waitingForConversion stage →
    r.stateEntered + r.conversionTime stage ≤ first
  spaced : (first :: later).IsChain fun t t' => t < t' ∧ ∀ stage, t + r.conversionTime stage ≤ t'

/-- The first unhurried update finds its gate open, whatever the driver is waiting for. -/
theorem Rhythm.Unhurried.isOpen {r : Rhythm τ} {first : Micros} {later : List Micros}
    (h : r.Unhurried first later) (hphase : r.phase ≠ .idle) : r.isOpen first = true := by
  unfold Rhythm.isOpen
  cases hcases : r.phase with
  | idle => exact absurd hcases hphase
  | waitingForInterval => exact decide_eq_true (Nat.le_sub_of_add_le' h.interval)
  | waitingForConversion stage =>
    exact decide_eq_true (Nat.le_sub_of_add_le' (h.conversion stage hcases))

/-- What the cycle of a polled driver is to bring, and what may be asked of its sensor. The count of
remaining updates decreases from phase to phase. -/
structure Course (p : Polled δ κ τ) (ρ : Type) where
  update : Micros → κ
  memory : δ → Memory ρ
  measured : ρ → Event
  /-- A transaction that succeeds, with data as a healthy sensor gives them. -/
  Good : δ → Exchange → Prop
  /-- How many good updates a phase is away from a reading. -/
  remaining : Phase τ → Nat

namespace Course

variable {p : Polled δ κ τ} (course : Course p ρ)

/-- A reading is reported, and kept with the time of the update. -/
def Stored (actions : List (Action Event)) (s' : δ) (now : Micros) : Prop :=
  ∃ reading, .reported (course.measured reading) ∈ actions ∧
    course.memory s' = ⟨some reading, some now⟩

def Stores (e : Episode Event (Attended δ) κ) (now : Micros) : Prop :=
  p.updated e.call = some now ∧ course.Stored e.actions e.after.driver now

/-- The next conversion has just begun, and fewer updates remain to the end of the cycle than
before. -/
def Closer (s s' : δ) (now : Micros) : Prop :=
  ∃ stage, p.rhythm s' = { p.rhythm s with
      cycleStarted := (p.rhythm s').cycleStarted
      stateEntered := now
      phase := .waitingForConversion stage } ∧
    course.remaining (.waitingForConversion stage) < course.remaining (p.rhythm s).phase

/-- An update stores a reading or keeps the memory, and when all goes well at a time that the rhythm
is open to, it stores one or comes closer to it. What a sound driver is, each course says for
itself. -/
structure Lawful (Sound : δ → Prop) : Prop where
  updated : ∀ now, p.updated (course.update now) = some now
  converting : ∀ stage, 0 < course.remaining (.waitingForConversion stage)
  sound : ∀ s c, (p.attend s c).Always fun _ s' => Sound s.driver → Sound s'.driver
  keeps : ∀ s now, (p.attend s (course.update now)).Always fun actions s' =>
    course.Stored actions s'.driver now ∨ course.memory s'.driver = course.memory s.driver
  advances : ∀ s now, Sound s.driver → (p.rhythm s.driver).isOpen now = true →
    (p.attend s (course.update now)).Always fun actions s' =>
      (∀ x ∈ actions.filterMap Action.exchange?, course.Good s.driver x) →
        course.Stored actions s'.driver now ∨ course.Closer s.driver s'.driver now

/-- Whatever came before, if the driver is set up then `count` unhurried updates with nothing but
good answers leave a reading that one of them stored, with its time. -/
def Recovers (start : δ) (bus : β) (count : Nat) : Prop :=
  ∀ (calls : List κ) (first : Micros) (later : List Micros), later.length + 1 = count →
    let h := p.history start bus calls
    let updates := (first :: later).map course.update
    (p.rhythm h.state.driver).phase ≠ .idle →
    (p.rhythm h.state.driver).Unhurried first later →
    (∀ e ∈ h.episodes p.attend updates, ∀ x ∈ e.exchanges, course.Good e.before.driver x) →
    ∃ e ∈ h.episodes p.attend updates, ∃ t ∈ first :: later, course.Stores e t ∧
      course.memory (h.play p.attend updates).state.driver = course.memory e.after.driver

variable {course} {Sound : δ → Prop}

/-- A course is lawful when the outcomes of an update say so. They are those of the step that an
update is, since an update sets nothing up. -/
theorem Lawful.of_updates {Update : δ → Micros → List (Action Event) → δ → Prop}
    (hcalls : ∀ now, p.initialised (course.update now) = none ∧
      p.updated (course.update now) = some now)
    (hupdate : ∀ d now, (p.step d (course.update now)).Always (Update d now))
    (hconverting : ∀ stage, 0 < course.remaining (.waitingForConversion stage))
    (hsound : ∀ s c, (p.attend s c).Always fun _ s' => Sound s.driver → Sound s'.driver)
    (hkeeps : ∀ {d d' now actions}, Update d now actions d' →
      course.Stored actions d' now ∨ course.memory d' = course.memory d)
    (hadvances : ∀ {d d' now actions}, Update d now actions d' → Sound d →
      (p.rhythm d).isOpen now = true →
      (∀ x ∈ actions.filterMap Action.exchange?, course.Good d x) →
        course.Stored actions d' now ∨ course.Closer d d' now) :
    course.Lawful Sound := by
  have hattend (s : Attended δ) (now : Micros) : (p.attend s (course.update now)).Always
      fun actions s' => Update s.driver now actions s'.driver := by
    apply Polled.attend_always
    · intro time hinit
      nomatch (hcalls now).1.symm.trans hinit
    · exact fun _ => hupdate s.driver now
  exact {
    updated := fun now => (hcalls now).2
    converting := hconverting
    sound := hsound
    keeps := fun s now => (hattend s now).mono fun _ _ h => hkeeps h
    advances := fun s now hs hopen => (hattend s now).mono fun _ _ h => hadvances h hs hopen }

/-- After a step closer, the next of the unhurried updates finds its gate open again. -/
theorem Closer.unhurried {s s' : δ} {now next : Micros} {later : List Micros}
    (h : course.Closer s s' now)
    (hspaced : (now :: next :: later).IsChain fun t t' =>
      t < t' ∧ ∀ stage, t + (p.rhythm s).conversionTime stage ≤ t') :
    (p.rhythm s').isOpen next = true ∧ (next :: later).IsChain fun t t' =>
      t < t' ∧ ∀ stage, t + (p.rhythm s').conversionTime stage ≤ t' := by
  obtain ⟨stage, hrhythm, -⟩ := h
  obtain ⟨⟨-, hwait⟩, hrest⟩ := List.isChain_cons_cons.mp hspaced
  rw [hrhythm]
  refine ⟨?_, hrest⟩
  exact decide_eq_true (Nat.le_sub_of_add_le' (hwait stage))

/-- As many updates as the reading is away are enough to store it, by induction on the updates. -/
theorem Lawful.stores (hlawful : course.Lawful Sound) {h : History β Event (Attended δ) κ}
    {first : Micros} {later : List Micros} (hsound : Sound h.state.driver)
    (hopen : (p.rhythm h.state.driver).isOpen first = true)
    (hspaced : (first :: later).IsChain fun t t' =>
      t < t' ∧ ∀ stage, t + (p.rhythm h.state.driver).conversionTime stage ≤ t')
    (hremaining : course.remaining (p.rhythm h.state.driver).phase ≤ later.length + 1)
    (hgood : ∀ e ∈ h.episodes p.attend ((first :: later).map course.update),
      ∀ x ∈ e.exchanges, course.Good e.before.driver x) :
    ∃ e ∈ h.episodes p.attend ((first :: later).map course.update), ∃ t, course.Stores e t := by
  induction later generalizing h first with
  | nil =>
    rcases (hlawful.advances h.state first hsound hopen).run h.bus
        (hgood _ List.mem_cons_self) with hstored | ⟨stage, -, hless⟩
    · exact ⟨_, List.mem_cons_self, first, hlawful.updated first, hstored⟩
    · have hpositive := hlawful.converting stage
      simp only [List.length_nil] at hremaining
      omega
  | cons next later ih =>
    rcases (hlawful.advances h.state first hsound hopen).run h.bus
        (hgood _ List.mem_cons_self) with hstored | hcloser
    · exact ⟨_, List.mem_cons_self, first, hlawful.updated first, hstored⟩
    · obtain ⟨hopen', hspaced'⟩ := hcloser.unhurried hspaced
      have hsound' := (hlawful.sound h.state (course.update first)).run h.bus hsound
      have hremaining' : course.remaining
          (p.rhythm (h.call p.attend (course.update first)).state.driver).phase ≤
            later.length + 1 := by
        obtain ⟨stage, hrhythm, hless⟩ := hcloser
        have hphase : (p.rhythm (h.call p.attend (course.update first)).state.driver).phase =
            .waitingForConversion stage := congrArg Rhythm.phase hrhythm
        rw [hphase]
        simp only [List.length_cons] at hremaining
        omega
      obtain ⟨e, he, hstores⟩ := ih (h := h.call p.attend (course.update first)) hsound' hopen'
        hspaced' hremaining' fun e he => hgood e (List.mem_cons_of_mem _ he)
      exact ⟨e, List.mem_cons_of_mem _ he, hstores⟩

/-- The memory at the end is that of the last update that stored a reading, since all other calls in
between keep it. -/
theorem Lawful.remembers (hlawful : course.Lawful Sound) (h : History β Event (Attended δ) κ)
    {times : List Micros}
    (hstores : ∃ e ∈ h.episodes p.attend (times.map course.update), ∃ t, course.Stores e t) :
    ∃ e ∈ h.episodes p.attend (times.map course.update), (∃ t, course.Stores e t) ∧
      course.memory (h.play p.attend (times.map course.update)).state.driver =
        course.memory e.after.driver := by
  induction times using List.reverseRecOn with
  | nil =>
    obtain ⟨e, he, -⟩ := hstores
    nomatch he
  | append_singleton times last ih =>
    let before := h.play p.attend (times.map course.update)
    rw [List.map_append, List.map_singleton, History.episodes_concat] at hstores ⊢
    rw [History.play_concat]
    rcases (hlawful.keeps before.state last).run before.bus with hlast | hkept
    · exact ⟨_, List.mem_append_right _ List.mem_cons_self, ⟨last, hlawful.updated last, hlast⟩,
        rfl⟩
    · obtain ⟨e, he, hstored⟩ := hstores
      rcases List.mem_append.mp he with he | he
      · obtain ⟨e', he', hstored', hmemory⟩ := ih ⟨e, he, hstored⟩
        exact ⟨e', List.mem_append_left _ he', hstored', hkept.trans hmemory⟩
      · obtain rfl := List.mem_singleton.mp he
        exact ⟨_, List.mem_append_right _ List.mem_cons_self, hstored, rfl⟩

/-- A reading that is stored carries the time of one of the updates. -/
theorem Lawful.mem_times (hlawful : course.Lawful Sound) {h : History β Event (Attended δ) κ}
    {times : List Micros} {e : Episode Event (Attended δ) κ} {t : Micros}
    (he : e ∈ h.episodes p.attend (times.map course.update)) (hstores : course.Stores e t) :
    t ∈ times := by
  have hcall : e.call ∈ times.map course.update := by
    rw [← h.calls_episodes (times.map course.update)]
    exact List.mem_map_of_mem he
  obtain ⟨t', ht', hupdate⟩ := List.mem_map.mp hcall
  have hupdated := hstores.1
  rw [← hupdate, hlawful.updated] at hupdated
  rwa [← Option.some.inj hupdated]

/-- From a sound start every history recovers in as many updates as the longest way to a reading
has. -/
theorem Lawful.recovers (hlawful : course.Lawful Sound) {start : δ} (hstart : Sound start)
    (bus : β) {count : Nat} (hcount : ∀ phase, course.remaining phase ≤ count) :
    course.Recovers start bus count := by
  intro calls first later hlength h updates hphase hunhurried hgood
  have hsound : Sound h.state.driver := by
    apply History.invariant (fun _ s => Sound s.driver) hlawful.sound _ hstart calls
    intro _ _ _ _ _ hbefore hafter
    exact hafter hbefore
  have hremaining := hcount (p.rhythm h.state.driver).phase
  obtain ⟨e, he, ⟨t, hstores⟩, hmemory⟩ := hlawful.remembers h
    (hlawful.stores hsound (hunhurried.isOpen hphase) hunhurried.spaced (by omega) hgood)
  exact ⟨e, he, t, hlawful.mem_times he hstores, hstores, hmemory⟩

end Course

namespace Htu21d.Driver

/-- While the humidity is converted there is a temperature to pair it with. This is what makes an
HTU21D sound. -/
def HoldsHalf (d : Driver) : Prop :=
  d.phase = .waitingForConversion .humidity → d.pendingTemperature.isSome

/-- The course of the HTU21D takes three updates: one for each trigger, the second of which also
reads, and one for the humidity. A good answer carries a checksum that fits. -/
def course : Course polled Reading where
  update := .update
  memory := memory
  measured := .htu21dMeasured
  Good _ x := x.acknowledged = true ∧
    ∀ bytes : Vector UInt8 3, x = .received address bytes → Intact bytes
  remaining
    | .idle => 0
    | .waitingForInterval => 3
    | .waitingForConversion .temperature => 2
    | .waitingForConversion .humidity => 1

theorem Attends.holdsHalf {s s' : Attended Driver} {c : Call} {actions : List (Action Event)}
    (h : Attends s c actions s') (hs : s.driver.HoldsHalf) : s'.driver.HoldsHalf := by
  cases h with
  | init hinit =>
    cases hinit with
    | refused => exact hs
    | ready => exact fun hphase => nomatch hphase
  | update hupdate =>
    cases hupdate with
    | rested => exact hs
    | halfway => exact fun _ => rfl
    | started | startRefused | unread | spoilt | halfwayRefused | measured | dropped =>
      exact fun hphase => nomatch hphase

theorem Update.keeps {d d' : Driver} {now : Micros} {actions : List (Action Event)}
    (h : d.Update now actions d') : course.Stored actions d' now ∨ d'.memory = d.memory := by
  cases h with
  | measured => exact .inl ⟨_, List.mem_cons_of_mem _ List.mem_cons_self, rfl⟩
  | rested | started | startRefused | unread | spoilt | halfway | halfwayRefused | dropped =>
    exact .inr rfl

/-- A due update with good answers stores a reading or triggers the next conversion. The outcomes
that give the cycle up all need a bad answer, or a lost half. -/
theorem Update.advances {d d' : Driver} {now : Micros} {actions : List (Action Event)}
    (h : d.Update now actions d') (hhalf : d.HoldsHalf)
    (hopen : (polled.rhythm d).isOpen now = true)
    (hgood : ∀ x ∈ actions.filterMap Action.exchange?, course.Good d x) :
    course.Stored actions d' now ∨ course.Closer d d' now := by
  rw [isOpen_rhythm] at hopen
  cases h with
  | rested hrested => simp [hopen] at hrested
  | started hphase =>
    right
    refine ⟨.temperature, rfl, ?_⟩
    simp [course, polled, hphase]
  | halfway hphase =>
    right
    refine ⟨.humidity, rfl, ?_⟩
    simp [course, polled, hphase]
  | measured => exact .inl ⟨_, List.mem_cons_of_mem _ List.mem_cons_self, rfl⟩
  | dropped hphase _ bytes hbytes hpending => simpa [hpending] using hhalf hphase
  | spoilt stage hphase hdue bytes hbytes =>
    obtain ⟨-, hintact⟩ := hgood _ List.mem_cons_self
    exact absurd (hintact bytes rfl) hbytes
  | startRefused | unread | halfwayRefused => simp [course] at hgood

theorem course_lawful : course.Lawful HoldsHalf := by
  apply Course.Lawful.of_updates (fun _ => ⟨rfl, rfl⟩) update_always
  · exact fun stage => by cases stage <;> decide
  · exact fun s c => (attend_outcomes s c).mono fun _ _ h => h.holdsHalf
  · exact Update.keeps
  · exact Update.advances

theorem course_remaining_le (phase : Phase Stage) : course.remaining phase ≤ 3 := by
  cases phase with
  | idle | waitingForInterval => decide
  | waitingForConversion stage => cases stage <;> decide

end Htu21d.Driver

namespace Ccs811.Driver

/-- The course of the CCS811 takes two updates. A good answer has no error bit and announces a new
result. -/
def course : Course polled Reading where
  update := .update
  memory := memory
  measured := .ccs811Measured
  Good d x := x.acknowledged = true ∧
    ∀ bytes : Vector UInt8 8, x = .received d.address bytes → ¬ Erroneous bytes ∧ Fresh bytes
  remaining
    | .idle => 0
    | .waitingForInterval => 2
    | .waitingForConversion _ => 1

theorem Update.keeps {d d' : Driver} {now : Micros} {actions : List (Action Event)}
    (h : d.Update now actions d') : course.Stored actions d' now ∨ d'.memory = d.memory := by
  cases h with
  | measured => exact .inl ⟨_, List.mem_cons_of_mem _ List.mem_cons_self, rfl⟩
  | rested | selected | selectRefused | told | toldSelectRefused | untold | unread | erroneous
  | nothingNew => exact .inr rfl

theorem Update.advances {d d' : Driver} {now : Micros} {actions : List (Action Event)}
    (h : d.Update now actions d') (hopen : (polled.rhythm d).isOpen now = true)
    (hgood : ∀ x ∈ actions.filterMap Action.exchange?, course.Good d x) :
    course.Stored actions d' now ∨ course.Closer d d' now := by
  rw [isOpen_rhythm] at hopen
  cases h with
  | rested hrested => simp [hopen] at hrested
  | selected hphase | told hphase =>
    right
    refine ⟨.algorithmResult, rfl, ?_⟩
    simp [course, polled, hphase]
  | measured => exact .inl ⟨_, List.mem_cons_of_mem _ List.mem_cons_self, rfl⟩
  | erroneous stage hphase hdue bytes hbytes =>
    obtain ⟨-, hhealthy⟩ := hgood _ List.mem_cons_self
    exact absurd hbytes (hhealthy bytes rfl).1
  | nothingNew stage hphase hdue bytes hbytes hfresh =>
    obtain ⟨-, hhealthy⟩ := hgood _ List.mem_cons_self
    exact absurd (hhealthy bytes rfl).2 hfresh
  | selectRefused | toldSelectRefused | untold | unread => simp [course] at hgood

theorem course_lawful : course.Lawful fun _ => True :=
  .of_updates (fun _ => ⟨rfl, rfl⟩) update_always (fun _ => Nat.one_pos)
    (fun _ _ => .of_forall _ fun _ _ h => h) Update.keeps fun h _ => h.advances

theorem course_remaining_le (phase : Phase Stage) : course.remaining phase ≤ 2 := by
  cases phase with
  | idle | waitingForInterval | waitingForConversion => simp [course]

end Ccs811.Driver

namespace Bme68x.Driver

/-- The course of the BME68x takes two updates. In a good answer some field of the burst carries the
status bits that a reading needs. -/
def course : Course polled Reading where
  update := .update
  memory := memory
  measured := .bme68xMeasured
  Good d x := x.acknowledged = true ∧ ∀ bytes : d.Burst,
    x = .fetched d.address Register.fields bytes →
      ∃ field ∈ d.fieldsOf bytes, field.has d.settings.requiredMask = true
  remaining
    | .idle => 0
    | .waitingForInterval => 2
    | .waitingForConversion _ => 1

theorem newest?_eq_none_iff (d : Driver) (fields : List RawField) :
    d.newest? fields = none ↔ ∀ field ∈ fields, field.has d.settings.requiredMask = false := by
  simp [newest?]

theorem Update.keeps {d d' : Driver} {now : Micros} {actions : List (Action Event)}
    (h : d.Update now actions d') : course.Stored actions d' now ∨ d'.memory = d.memory := by
  cases h with
  | measured => exact .inl ⟨_, by simp [course], rfl⟩
  | rested | started | startRefused | unread | nothingNew => exact .inr rfl

theorem Update.advances {d d' : Driver} {now : Micros} {actions : List (Action Event)}
    (h : d.Update now actions d') (hopen : (polled.rhythm d).isOpen now = true)
    (hgood : ∀ x ∈ actions.filterMap Action.exchange?, course.Good d x) :
    course.Stored actions d' now ∨ course.Closer d d' now := by
  rw [isOpen_rhythm] at hopen
  cases h with
  | rested hrested => simp [hopen] at hrested
  | started hphase =>
    right
    refine ⟨.measurement, rfl, ?_⟩
    simp [course, polled, hphase]
  | measured => exact .inl ⟨_, by simp [course], rfl⟩
  | nothingNew stage hphase hdue bytes hfields =>
    obtain ⟨-, hhealthy⟩ := hgood _ List.mem_cons_self
    obtain ⟨field, hfield, haccepted⟩ := hhealthy bytes rfl
    have hrefused := (d.newest?_eq_none_iff _).mp hfields field hfield
    simp [haccepted] at hrefused
  | startRefused | unread => simp [course] at hgood

theorem course_lawful : course.Lawful fun _ => True :=
  .of_updates (fun _ => ⟨rfl, rfl⟩) update_always (fun _ => Nat.one_pos)
    (fun _ _ => .of_forall _ fun _ _ h => h) Update.keeps fun h _ => h.advances

theorem course_remaining_le (phase : Phase Stage) : course.remaining phase ≤ 2 := by
  cases phase with
  | idle | waitingForInterval | waitingForConversion => simp [course]

end Bme68x.Driver

/-- After any calls on any bus, a driver that is set up brings a fresh reading, timed by one of
the updates, once these are unhurried and all goes well: three updates for the HTU21D, two for
the CCS811 and the BME68x. -/
theorem drivers_recover (bus : β) :
    (∀ interval, Htu21d.Driver.course.Recovers (.ofInterval interval) bus 3) ∧
    (∀ address interval mode,
      Ccs811.Driver.course.Recovers (.create address interval mode) bus 2) ∧
    (∀ address interval settings,
      Bme68x.Driver.course.Recovers (.create address interval settings) bus 2) := by
  refine ⟨?_, ?_, ?_⟩
  · intro interval
    have hstart : (Htu21d.Driver.ofInterval interval).HoldsHalf := fun hphase => nomatch hphase
    exact Htu21d.Driver.course_lawful.recovers hstart bus Htu21d.Driver.course_remaining_le
  · intro address interval mode
    exact Ccs811.Driver.course_lawful.recovers trivial bus Ccs811.Driver.course_remaining_le
  · intro address interval settings
    exact Bme68x.Driver.course_lawful.recovers trivial bus Bme68x.Driver.course_remaining_le

/-- An HTU21D alone on a bus that fails once, and answers from then on. -/
def refusingBus : SimulatedBus :=
  { SimulatedBus.empty with
      htu21d := some ⟨0x6000, 0x8002, none, false, 0⟩, pendingFailures := [0x40] }

open Htu21d in
/-- A driver whose first set-up was refused is set up again and starts a cycle. The three updates
that follow bring a reading, with the time of one of them. -/
theorem drivers_recover_after_refusal :
    let h := Driver.polled.history (.ofInterval 1000000) refusingBus
      [.init 0, .init 5, .update 1000005]
    let updates := [2000005, 2050005, 2100005].map Driver.course.update
    h.state.driver.phase = .waitingForConversion .temperature ∧
    (Driver.polled.rhythm h.state.driver).Unhurried 2000005 [2050005, 2100005] ∧
    (∀ e ∈ h.episodes Driver.polled.attend updates, ∀ x ∈ e.exchanges,
      Driver.course.Good e.before.driver x) ∧
    ∃ t ∈ [2000005, 2050005, 2100005],
      (Driver.course.memory (h.play Driver.polled.attend updates).state.driver).lastSuccess =
        some t := by
  intro h updates
  have hphase : h.state.driver.phase = .waitingForConversion .temperature := by decide +kernel
  have hidle : (Driver.polled.rhythm h.state.driver).phase ≠ .idle := by decide +kernel
  have hunhurried : (Driver.polled.rhythm h.state.driver).Unhurried 2000005 [2050005, 2100005] := by
    refine ⟨by decide +kernel, ?_, ?_⟩
    · intro stage _
      cases stage <;> decide +kernel
    · simp only [List.isChain_cons_cons, List.isChain_singleton, and_true]
      refine ⟨⟨by decide, ?_⟩, by decide, ?_⟩
      all_goals
        intro stage
        cases stage <;> decide +kernel
  have hanswers : ∀ e ∈ h.episodes Driver.polled.attend updates, ∀ x ∈ e.exchanges,
      x.acknowledged = true ∧ (x.transfer = .read 3 →
        (x.response.toOption.map Vector.toList).getD [] ∈
          [[0x60, 0x00, crc8 [0x60, 0x00]], [0x80, 0x02, crc8 [0x80, 0x02]]]) := by
    decide +kernel
  have hgood : ∀ e ∈ h.episodes Driver.polled.attend updates, ∀ x ∈ e.exchanges,
      Driver.course.Good e.before.driver x := by
    intro e he x hx
    obtain ⟨hacknowledged, hanswer⟩ := hanswers e he x hx
    refine ⟨hacknowledged, ?_⟩
    rintro bytes rfl
    have hbytes : bytes.toList ∈
        [[0x60, 0x00, crc8 [0x60, 0x00]], [0x80, 0x02, crc8 [0x80, 0x02]]] := hanswer rfl
    rcases List.mem_pair.mp hbytes with hbytes | hbytes
    · obtain rfl : bytes = #v[0x60, 0x00, crc8 [0x60, 0x00]] := Vector.toList_inj.mp hbytes
      simp [Intact, Vector.get]
    · obtain rfl : bytes = #v[0x80, 0x02, crc8 [0x80, 0x02]] := Vector.toList_inj.mp hbytes
      simp [Intact, Vector.get]
  obtain ⟨e, -, t, ht, hstores, hmemory⟩ :=
    (drivers_recover refusingBus).1 1000000 [.init 0, .init 5, .update 1000005] 2000005
      [2050005, 2100005] rfl hidle hunhurried hgood
  obtain ⟨-, reading, -, hstored⟩ := hstores
  refine ⟨hphase, hunhurried, hgood, t, ht, ?_⟩
  rw [hmemory, hstored]
end AirStation
