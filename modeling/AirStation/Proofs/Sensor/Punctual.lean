import AirStation.Proofs.Sensor.Polled

/-!
Timing of a polled driver, over every order of calls, every clock and every bus. `Punctual` is the
contract: cycles keep their interval, data is read once after each trigger and not before its
conversion time is over, and an update at a closed gate leaves no trace. `Beat` lists what a call
may do to the rhythm, and `Lawful.punctual` derives the contract from it.

The contract speaks of calls and transactions, and never of the instants that the driver has noted.
The invariant `Timed` connects the two: during a wait the noted instants are those of the last
restart and of the last trigger. The clock may stand still or go back; a time that lies before an
instant counts as no time at all.
-/

namespace AirStation

namespace Polled

variable {β δ κ τ : Type} [Bus β] (p : Polled δ κ τ)

/-- An update that leaves the wait for the interval by a transaction, acknowledged or not. A cycle
whose trigger is refused has been started too. -/
def StartsCycle (e : Episode Event (Attended δ) κ) (now : Micros) : Prop :=
  p.updated e.call = some now ∧ (p.rhythm e.before.driver).phase = .waitingForInterval ∧
    e.exchanges ≠ []

/-- From here the next interval counts: a cycle has been started at this time, or a set-up has
succeeded. -/
def Restarts (e : Episode Event (Attended δ) κ) (now : Micros) : Prop :=
  p.StartsCycle e now ∨ p.Succeeds e now

/-- Transactions in order, each with the call that makes it, so that its time can be told. -/
def moments (past : List (Episode Event (Attended δ) κ)) :
    List (Episode Event (Attended δ) κ × Exchange) :=
  past.flatMap fun e => e.exchanges.map (e, ·)

/-- An acknowledged trigger of the stage. -/
def Triggers (stage : τ) (x : Exchange) : Prop :=
  x.acknowledged ∧ p.triggers stage x.transfer

/-- An acknowledged trigger of some stage, or a read of data. These are the transactions whose order
the contract is about. -/
def Counts (x : Exchange) : Prop :=
  p.reads x.transfer ∨ ∃ stage, p.Triggers stage x

/-- A cycle starts at least the interval after the last restart, whatever happened in between. -/
def Paced (r : Rhythm τ) (earlier : List (Episode Event (Attended δ) κ))
    (e : Episode Event (Attended δ) κ) : Prop :=
  ∀ now, p.StartsCycle e now → ∃ restart time,
    LastOf (fun e => ∃ time, p.Restarts e time) earlier restart ∧ p.Restarts restart time ∧
      r.interval ≤ now - time

/-- Data is read by an update, for the stage whose trigger came last, with no read since, and at
least its conversion time after it. -/
def Timely (r : Rhythm τ) (earlier : List (Episode Event (Attended δ) κ × Exchange))
    (m : Episode Event (Attended δ) κ × Exchange) : Prop :=
  p.reads m.2.transfer → ∃ now stage trigger time,
    p.updated m.1.call = some now ∧
      (p.rhythm m.1.before.driver).phase = .waitingForConversion stage ∧
      LastOf (fun m => p.Counts m.2) earlier trigger ∧ p.Triggers stage trigger.2 ∧
      p.updated trigger.1.call = some time ∧ r.conversionTime stage ≤ now - time

/-- The calls, and the same calls with updates at closed gates put in anywhere. Which gates are
closed depends on how far the calls have come. -/
inductive Padded : Attended δ → β → List κ → List κ → Prop where
  | done (s : Attended δ) (bus : β) : Padded s bus [] []
  | call {s : Attended δ} {bus : β} (c : κ) {calls padded : List κ}
      (h : Padded ((p.attend s c).run bus).value ((p.attend s c).run bus).bus calls padded) :
    Padded s bus (c :: calls) (c :: padded)
  | rest {s : Attended δ} {bus : β} (c : κ) (now : Micros) {calls padded : List κ}
      (hupdated : p.updated c = some now) (hclosed : (p.rhythm s.driver).isOpen now = false)
      (h : Padded s bus calls padded) :
    Padded s bus calls (c :: padded)

/-- Every call but an update at a closed gate. Only such calls can do anything. -/
def stirs (e : Episode Event (Attended δ) κ) : Bool :=
  (p.updated e.call).all (p.rhythm e.before.driver).isOpen

/-- Only updates at closed gates tell the two histories apart: driver and bus are the same, and so
is the rest of what happened. -/
structure Alike (full plain : History β Event (Attended δ) κ) : Prop where
  state : full.state = plain.state
  bus : full.bus = plain.bus
  past : full.past.filter p.stirs = plain.past.filter p.stirs

/-- The contract of a driver from its start on a bus. It holds for all lists of calls, so for every
moment of every history. -/
structure Punctual (start : δ) (bus : β) : Prop where
  paced : ∀ calls, Throughout (p.Paced (p.rhythm start)) (p.history start bus calls).past
  timely : ∀ calls,
    Throughout (p.Timely (p.rhythm start)) (moments (p.history start bus calls).past)
  /-- Between two reads of data there is an acknowledged trigger. -/
  single : ∀ calls earlier first between second later,
    moments (p.history start bus calls).past =
      earlier ++ first :: (between ++ second :: later) →
    p.reads first.2.transfer → p.reads second.2.transfer →
      ∃ m ∈ between, ∃ stage, p.Triggers stage m.2
  resting : ∀ (s : Attended δ) c now, p.updated c = some now →
    (p.rhythm s.driver).isOpen now = false → (p.attend s c).run bus = ⟨s, bus, []⟩
  undisturbed : ∀ calls padded, p.Padded ⟨start, none⟩ bus calls padded →
    p.Alike (p.history start bus padded) (p.history start bus calls)

/-- What a call may do to the rhythm of a driver. It passes, it is a set-up that succeeds, it starts
a cycle, with the trigger refused or acknowledged, it collects the last data of a cycle, or it goes
on to the next conversion. -/
inductive Beat (s : Attended δ) (c : κ) : List (Action Event) → Attended δ → Prop where
  /-- Nothing, or a conversion is given up. -/
  | passed {actions s'} (hrestarts : ∀ now, ¬ p.Restarts ⟨s, c, actions, s'⟩ now)
      (hsilent : ∀ x ∈ actions.filterMap Action.exchange?, ¬ p.Counts x)
      (hrhythm : p.rhythm s'.driver = p.rhythm s.driver ∨
        (p.rhythm s.driver).phase ≠ .idle ∧
          p.rhythm s'.driver = { p.rhythm s.driver with phase := .waitingForInterval }) :
    Beat s c actions s'
  | succeeded {actions s' now} (hsucceeds : p.Succeeds ⟨s, c, actions, s'⟩ now)
      (hsilent : ∀ x ∈ actions.filterMap Action.exchange?, ¬ p.Counts x)
      (hrhythm : p.rhythm s'.driver = { p.rhythm s.driver with
        phase := .waitingForInterval, cycleStarted := now, stateEntered := now }) :
    Beat s c actions s'
  | refused {actions s' now} (hstarts : p.StartsCycle ⟨s, c, actions, s'⟩ now)
      (hopen : (p.rhythm s.driver).isOpen now)
      (hsilent : ∀ x ∈ actions.filterMap Action.exchange?, ¬ p.Counts x)
      (hrhythm : p.rhythm s'.driver = { p.rhythm s.driver with
        phase := .waitingForInterval, cycleStarted := now, stateEntered := now }) :
    Beat s c actions s'
  | started {actions s' now stage trigger} (before : List Exchange)
      (hstarts : p.StartsCycle ⟨s, c, actions, s'⟩ now)
      (hopen : (p.rhythm s.driver).isOpen now)
      (hexchanges : actions.filterMap Action.exchange? = before ++ [trigger])
      (hsilent : ∀ x ∈ before, ¬ p.Counts x) (htrigger : p.Triggers stage trigger)
      (hrhythm : p.rhythm s'.driver = { p.rhythm s.driver with
        phase := .waitingForConversion stage, cycleStarted := now, stateEntered := now }) :
    Beat s c actions s'
  | collected {actions s' now stage read after} (hupdated : p.updated c = some now)
      (hphase : (p.rhythm s.driver).phase = .waitingForConversion stage)
      (hopen : (p.rhythm s.driver).isOpen now)
      (hexchanges : actions.filterMap Action.exchange? = read :: after)
      (hsilent : ∀ x ∈ after, ¬ p.Counts x)
      (hrhythm : p.rhythm s'.driver =
        { p.rhythm s.driver with phase := .waitingForInterval }) :
    Beat s c actions s'
  | advanced {actions s' now stage next read trigger} (hupdated : p.updated c = some now)
      (hphase : (p.rhythm s.driver).phase = .waitingForConversion stage)
      (hopen : (p.rhythm s.driver).isOpen now)
      (hexchanges : actions.filterMap Action.exchange? = [read, trigger])
      (htrigger : p.Triggers next trigger)
      (hrhythm : p.rhythm s'.driver = { p.rhythm s.driver with
        phase := .waitingForConversion next, stateEntered := now }) :
    Beat s c actions s'

/-- What has to be known of the single calls of a driver for it to be punctual. That every call is a
beat is the main part. -/
structure Lawful : Prop where
  /-- No call is both an update and a set-up. -/
  apart : ∀ c now, p.updated c = some now → p.initialised c = none
  /-- No transfer both triggers and reads. -/
  distinct : ∀ stage transfer, p.triggers stage transfer → ¬ p.reads transfer
  resting : ∀ d c now, p.updated c = some now → (p.rhythm d).isOpen now = false →
    p.step d c = pure d
  beat : ∀ s c, (p.attend s c).Always (p.Beat s c)

variable {p} {r : Rhythm τ} {past : List (Episode Event (Attended δ) κ)}
  {e : Episode Event (Attended δ) κ}

/-- A call that is quiet and sets nothing up does not make the interval count anew. -/
theorem not_restarts (hquiet : p.updated e.call = none ∨ e.exchanges = [])
    (hanswer : p.initialised e.call = none ∨ e.after.answer ≠ some (.ok ())) (now : Micros) :
    ¬ p.Restarts e now := by
  rintro (⟨hupdated, -, hexchanges⟩ | ⟨hinitialised, hok⟩)
  · rcases hquiet with hcall | hnone
    · rw [hcall] at hupdated
      nomatch hupdated
    · exact hexchanges hnone
  · rcases hanswer with hcall | hfailed
    · rw [hcall] at hinitialised
      nomatch hinitialised
    · exact hfailed hok

theorem moments_concat (past : List (Episode Event (Attended δ) κ))
    (e : Episode Event (Attended δ) κ) :
    moments (past ++ [e]) = moments past ++ e.exchanges.map (e, ·) := by
  simp [moments]

theorem Lawful.not_reads_of_triggers (hp : p.Lawful) {stage : τ} {x : Exchange}
    (h : p.Triggers stage x) : ¬ p.reads x.transfer :=
  hp.distinct stage x.transfer h.2

/-- The two instants of the rhythm are those of the last restart and, during a conversion, of the
trigger that came last. Interval and conversion times are those of the start. -/
structure Timed (p : Polled δ κ τ) (r : Rhythm τ) (past : List (Episode Event (Attended δ) κ))
    (s : Attended δ) : Prop where
  interval : (p.rhythm s.driver).interval = r.interval
  conversionTime : (p.rhythm s.driver).conversionTime = r.conversionTime
  restarted : (p.rhythm s.driver).phase ≠ .idle →
    ∃ e, LastOf (fun e => ∃ time, p.Restarts e time) past e ∧
      p.Restarts e (p.rhythm s.driver).cycleStarted
  triggered : ∀ stage, (p.rhythm s.driver).phase = .waitingForConversion stage →
    ∃ m, LastOf (fun m => p.Counts m.2) (moments past) m ∧ p.Triggers stage m.2 ∧
      p.updated m.1.call = some (p.rhythm s.driver).stateEntered
  paced : Throughout (p.Paced r) past
  timely : Throughout (p.Timely r) (moments past)

theorem Rhythm.interval_le {r : Rhythm τ} {now : Micros} (hopen : r.isOpen now)
    (hphase : r.phase = .waitingForInterval) : r.interval ≤ now - r.cycleStarted := by
  simpa [Rhythm.isOpen, hphase] using hopen

theorem Rhythm.conversionTime_le {r : Rhythm τ} {now : Micros} {stage : τ} (hopen : r.isOpen now)
    (hphase : r.phase = .waitingForConversion stage) :
    r.conversionTime stage ≤ now - r.stateEntered := by
  simpa [Rhythm.isOpen, hphase] using hopen

theorem paced_of_not_restarts (hrestarts : ∀ now, ¬ p.Restarts e now) : p.Paced r past e :=
  fun now hstarts => absurd (.inl hstarts) (hrestarts now)

theorem paced_of_converting {stage : τ}
    (hphase : (p.rhythm e.before.driver).phase = .waitingForConversion stage) :
    p.Paced r past e := by
  rintro now ⟨-, hwaiting, -⟩
  rw [hphase] at hwaiting
  nomatch hwaiting

theorem not_reads_of_silent {exchanges : List Exchange}
    (hsilent : ∀ x ∈ exchanges, ¬ p.Counts x) : ∀ x ∈ exchanges, ¬ p.reads x.transfer :=
  fun x hx hread => hsilent x hx (.inl hread)

theorem timely_of_unread
    {earlier : List (Episode Event (Attended δ) κ × Exchange) →
      List (Episode Event (Attended δ) κ × Exchange)}
    {exchanges : List Exchange} (hunread : ∀ x ∈ exchanges, ¬ p.reads x.transfer) :
    Throughout (fun between => p.Timely r (earlier between)) (exchanges.map (e, ·)) := by
  apply throughout_of_forall
  intro m hm between hread
  obtain ⟨x, hx, rfl⟩ := List.mem_map.mp hm
  exact absurd hread (hunread x hx)

/-- An update through an open gate starts a cycle no earlier than the contract allows. -/
theorem Timed.paced_of_open (h : p.Timed r past e.before) {now : Micros}
    (hupdated : p.updated e.call = some now) (hopen : (p.rhythm e.before.driver).isOpen now) :
    p.Paced r past e := by
  rintro time ⟨htime, hphase, -⟩
  obtain rfl : now = time := Option.some.inj (hupdated.symm.trans htime)
  obtain ⟨restart, hlast, hrestart⟩ := h.restarted (by simp [hphase])
  refine ⟨restart, _, hlast, hrestart, ?_⟩
  rw [← h.interval]
  exact Rhythm.interval_le hopen hphase

/-- An update through an open gate reads data no earlier than the contract allows, and for the right
stage. -/
theorem Timed.timely_of_open (h : p.Timed r past e.before) {now : Micros} {stage : τ}
    (hupdated : p.updated e.call = some now)
    (hphase : (p.rhythm e.before.driver).phase = .waitingForConversion stage)
    (hopen : (p.rhythm e.before.driver).isOpen now) (x : Exchange) :
    p.Timely r (moments past) (e, x) := by
  intro _
  obtain ⟨trigger, hlast, htrigger, hentered⟩ := h.triggered stage hphase
  refine ⟨now, stage, trigger, _, hupdated, hphase, hlast, htrigger, hentered, ?_⟩
  rw [← h.conversionTime]
  exact Rhythm.conversionTime_le hopen hphase

/-- What is to be shown of one more call: whether the interval counts anew, which trigger is the
last one now, and that what the call has done was allowed. -/
theorem Timed.extend (h : p.Timed r past e.before)
    (hinterval : (p.rhythm e.after.driver).interval = (p.rhythm e.before.driver).interval)
    (hconversion : (p.rhythm e.after.driver).conversionTime =
      (p.rhythm e.before.driver).conversionTime)
    (hrestarted : p.Restarts e (p.rhythm e.after.driver).cycleStarted ∨
      (∀ now, ¬ p.Restarts e now) ∧
        (p.rhythm e.after.driver).cycleStarted = (p.rhythm e.before.driver).cycleStarted ∧
        ((p.rhythm e.after.driver).phase ≠ .idle → (p.rhythm e.before.driver).phase ≠ .idle))
    (htriggered : ∀ stage, (p.rhythm e.after.driver).phase = .waitingForConversion stage →
      ∃ m, LastOf (fun m => p.Counts m.2) (moments past ++ e.exchanges.map (e, ·)) m ∧
        p.Triggers stage m.2 ∧
        p.updated m.1.call = some (p.rhythm e.after.driver).stateEntered)
    (hpaced : p.Paced r past e)
    (htimely : Throughout (fun between => p.Timely r (moments past ++ between))
      (e.exchanges.map (e, ·))) :
    p.Timed r (past ++ [e]) e.after where
  interval := hinterval.trans h.interval
  conversionTime := hconversion.trans h.conversionTime
  restarted hactive := by
    rcases hrestarted with hrestart | ⟨hnone, hsame, hbefore⟩
    · exact ⟨e, lastOf_concat ⟨_, hrestart⟩ past, hrestart⟩
    · obtain ⟨restart, hlast, hrestart⟩ := h.restarted (hbefore hactive)
      refine ⟨restart, hlast.append ?_, hsame ▸ hrestart⟩
      rintro later hlater ⟨now, hnow⟩
      obtain rfl := List.mem_singleton.mp hlater
      exact hnone now hnow
  triggered stage hstage := by
    rw [moments_concat]
    exact htriggered stage hstage
  paced := by
    rw [throughout_append, throughout_cons]
    exact ⟨h.paced, by simpa using hpaced, throughout_nil _⟩
  timely := by
    rw [moments_concat, throughout_append]
    exact ⟨h.timely, htimely⟩

theorem Lawful.not_succeeds (hp : p.Lawful) {now : Micros} (hupdated : p.updated e.call = some now)
    (time : Micros) : ¬ p.Succeeds e time := by
  rintro ⟨hinit, -⟩
  rw [hp.apart e.call now hupdated] at hinit
  nomatch hinit

theorem Lawful.not_restarts_of_converting (hp : p.Lawful) {now : Micros} {stage : τ}
    (hupdated : p.updated e.call = some now)
    (hphase : (p.rhythm e.before.driver).phase = .waitingForConversion stage) (time : Micros) :
    ¬ p.Restarts e time := by
  rintro (⟨-, hwaiting, -⟩ | hsucceeds)
  · rw [hphase] at hwaiting
    nomatch hwaiting
  · exact hp.not_succeeds hupdated time hsucceeds

/-- A call that passes changes no instant; at most a conversion is given up, and the driver waits
for its interval again. -/
theorem Timed.passed (h : p.Timed r past e.before) (hrestarts : ∀ now, ¬ p.Restarts e now)
    (hsilent : ∀ x ∈ e.exchanges, ¬ p.Counts x)
    (hrhythm : p.rhythm e.after.driver = p.rhythm e.before.driver ∨
      (p.rhythm e.before.driver).phase ≠ .idle ∧
        p.rhythm e.after.driver =
          { p.rhythm e.before.driver with phase := .waitingForInterval }) :
    p.Timed r (past ++ [e]) e.after := by
  have hpaced : p.Paced r past e := paced_of_not_restarts hrestarts
  have htimely : Throughout (fun between => p.Timely r (moments past ++ between))
      (e.exchanges.map (e, ·)) := timely_of_unread (not_reads_of_silent hsilent)
  rcases hrhythm with hsame | ⟨hactive, hgivenUp⟩
  · apply h.extend (by rw [hsame]) (by rw [hsame]) _ _ hpaced htimely
    · exact .inr ⟨hrestarts, by rw [hsame], by rw [hsame]; exact id⟩
    · intro stage hstage
      rw [hsame] at hstage ⊢
      obtain ⟨trigger, hlast, htrigger, hentered⟩ := h.triggered stage hstage
      refine ⟨trigger, hlast.append ?_, htrigger, hentered⟩
      intro m hm
      obtain ⟨x, hx, rfl⟩ := List.mem_map.mp hm
      exact hsilent x hx
  · apply h.extend (by rw [hgivenUp]) (by rw [hgivenUp]) _ _ hpaced htimely
    · exact .inr ⟨hrestarts, by rw [hgivenUp], fun _ => hactive⟩
    · intro stage hstage
      rw [hgivenUp] at hstage
      nomatch hstage

/-- A new wait for the interval begins, counted from the time of this call. -/
theorem Timed.restart (h : p.Timed r past e.before) {now : Micros}
    (hrestarts : p.Restarts e now) (hsilent : ∀ x ∈ e.exchanges, ¬ p.Counts x)
    (hrhythm : p.rhythm e.after.driver = { p.rhythm e.before.driver with
      phase := .waitingForInterval, cycleStarted := now, stateEntered := now })
    (hpaced : p.Paced r past e) : p.Timed r (past ++ [e]) e.after := by
  apply h.extend (by rw [hrhythm]) (by rw [hrhythm]) _ _ hpaced
  · exact timely_of_unread (not_reads_of_silent hsilent)
  · rw [hrhythm]
    exact .inl hrestarts
  · intro stage hstage
    rw [hrhythm] at hstage
    nomatch hstage

/-- The trigger at the end of an update is the last transaction that counts. -/
theorem lastOf_trigger {before : List Exchange} {trigger : Exchange} {stage : τ}
    (hexchanges : e.exchanges = before ++ [trigger]) (htrigger : p.Triggers stage trigger) :
    LastOf (fun m => p.Counts m.2) (moments past ++ e.exchanges.map (e, ·)) (e, trigger) := by
  rw [hexchanges, List.map_append, ← List.append_assoc]
  exact lastOf_concat (.inr ⟨stage, htrigger⟩) _

/-- A cycle is started with the trigger of its first conversion, from which the conversion time
counts. -/
theorem Timed.start (hp : p.Lawful) (h : p.Timed r past e.before) {now : Micros} {stage : τ}
    {before : List Exchange} {trigger : Exchange} (hstarts : p.StartsCycle e now)
    (hopen : (p.rhythm e.before.driver).isOpen now) (hexchanges : e.exchanges = before ++ [trigger])
    (hsilent : ∀ x ∈ before, ¬ p.Counts x) (htrigger : p.Triggers stage trigger)
    (hrhythm : p.rhythm e.after.driver = { p.rhythm e.before.driver with
      phase := .waitingForConversion stage, cycleStarted := now, stateEntered := now }) :
    p.Timed r (past ++ [e]) e.after := by
  apply h.extend (by rw [hrhythm]) (by rw [hrhythm])
  · rw [hrhythm]
    exact .inl (.inl hstarts)
  · intro other hother
    rw [hrhythm] at hother ⊢
    obtain rfl : stage = other := Phase.waitingForConversion.inj hother
    exact ⟨(e, trigger), lastOf_trigger hexchanges htrigger, htrigger, hstarts.1⟩
  · exact h.paced_of_open hstarts.1 hopen
  · apply timely_of_unread
    rw [hexchanges]
    intro x hx
    rcases List.mem_append.mp hx with hx | hx
    · exact not_reads_of_silent hsilent x hx
    · obtain rfl := List.mem_singleton.mp hx
      exact hp.not_reads_of_triggers htrigger

/-- The data of a stage is read, and the cycle goes on or ends. Reading for the last stage and
reading with the next trigger have this in common. -/
theorem Timed.read (hp : p.Lawful) (h : p.Timed r past e.before) {now entered : Micros}
    {stage : τ} {phase : Phase τ} {data : Exchange} {after : List Exchange}
    (hupdated : p.updated e.call = some now)
    (hphase : (p.rhythm e.before.driver).phase = .waitingForConversion stage)
    (hopen : (p.rhythm e.before.driver).isOpen now) (hexchanges : e.exchanges = data :: after)
    (hunread : ∀ x ∈ after, ¬ p.reads x.transfer)
    (hrhythm : p.rhythm e.after.driver =
      { p.rhythm e.before.driver with phase, stateEntered := entered })
    (htriggered : ∀ next, phase = .waitingForConversion next →
      ∃ m, LastOf (fun m => p.Counts m.2) (moments past ++ e.exchanges.map (e, ·)) m ∧
        p.Triggers next m.2 ∧ p.updated m.1.call = some entered) :
    p.Timed r (past ++ [e]) e.after := by
  apply h.extend (by rw [hrhythm]) (by rw [hrhythm])
  · refine .inr ⟨hp.not_restarts_of_converting hupdated hphase, by rw [hrhythm], fun _ => ?_⟩
    simp [hphase]
  · rw [hrhythm]
    exact htriggered
  · exact paced_of_converting hphase
  · rw [hexchanges, List.map_cons, throughout_cons]
    exact ⟨by simpa using h.timely_of_open hupdated hphase hopen data, timely_of_unread hunread⟩

/-- The last data of a cycle is read, and the driver waits for its interval, which counts from the
start of the cycle. -/
theorem Timed.collect (hp : p.Lawful) (h : p.Timed r past e.before) {now : Micros} {stage : τ}
    {data : Exchange} {after : List Exchange} (hupdated : p.updated e.call = some now)
    (hphase : (p.rhythm e.before.driver).phase = .waitingForConversion stage)
    (hopen : (p.rhythm e.before.driver).isOpen now) (hexchanges : e.exchanges = data :: after)
    (hsilent : ∀ x ∈ after, ¬ p.Counts x)
    (hrhythm : p.rhythm e.after.driver =
      { p.rhythm e.before.driver with phase := .waitingForInterval }) :
    p.Timed r (past ++ [e]) e.after := by
  apply h.read hp hupdated hphase hopen hexchanges (not_reads_of_silent hsilent) hrhythm
  intro next hnext
  nomatch hnext

/-- Data is read and the next conversion triggered in one update, from whose time the next
conversion time counts. -/
theorem Timed.advance (hp : p.Lawful) (h : p.Timed r past e.before) {now : Micros}
    {stage next : τ} {data trigger : Exchange} (hupdated : p.updated e.call = some now)
    (hphase : (p.rhythm e.before.driver).phase = .waitingForConversion stage)
    (hopen : (p.rhythm e.before.driver).isOpen now) (hexchanges : e.exchanges = [data, trigger])
    (htrigger : p.Triggers next trigger)
    (hrhythm : p.rhythm e.after.driver = { p.rhythm e.before.driver with
      phase := .waitingForConversion next, stateEntered := now }) :
    p.Timed r (past ++ [e]) e.after := by
  have hunread : ∀ x ∈ [trigger], ¬ p.reads x.transfer := by
    intro x hx
    obtain rfl := List.mem_singleton.mp hx
    exact hp.not_reads_of_triggers htrigger
  apply h.read hp hupdated hphase hopen hexchanges hunread hrhythm
  intro other hother
  obtain rfl : next = other := Phase.waitingForConversion.inj hother
  have hlast : e.exchanges = [data] ++ [trigger] := hexchanges
  exact ⟨(e, trigger), lastOf_trigger hlast htrigger, htrigger, hupdated⟩

/-- Every beat of the rhythm keeps the invariant. There is one case for each kind of beat. -/
theorem Timed.beat (hp : p.Lawful) {s s' : Attended δ} {c : κ} {actions : List (Action Event)}
    (h : p.Timed r past s) (hbeat : p.Beat s c actions s') :
    p.Timed r (past ++ [⟨s, c, actions, s'⟩]) s' := by
  cases hbeat with
  | passed hrestarts hsilent hrhythm => exact h.passed hrestarts hsilent hrhythm
  | succeeded hsucceeds hsilent hrhythm =>
    apply h.restart (.inr hsucceeds) hsilent hrhythm
    intro time hstarts
    exact absurd hsucceeds (hp.not_succeeds hstarts.1 _)
  | refused hstarts hopen hsilent hrhythm =>
    exact h.restart (.inl hstarts) hsilent hrhythm (h.paced_of_open hstarts.1 hopen)
  | started before hstarts hopen hexchanges hsilent htrigger hrhythm =>
    exact h.start hp hstarts hopen hexchanges hsilent htrigger hrhythm
  | collected hupdated hphase hopen hexchanges hsilent hrhythm =>
    exact h.collect hp hupdated hphase hopen hexchanges hsilent hrhythm
  | advanced hupdated hphase hopen hexchanges htrigger hrhythm =>
    exact h.advance hp hupdated hphase hopen hexchanges htrigger hrhythm

/-- The invariant holds in every history of a driver that has not been set up before. -/
theorem Lawful.timed (hp : p.Lawful) {start : δ} (hidle : (p.rhythm start).phase = .idle)
    (bus : β) (calls : List κ) :
    p.Timed (p.rhythm start) (p.history start bus calls).past
      (p.history start bus calls).state := by
  apply History.invariant (p.Timed (p.rhythm start)) hp.beat
  · intro past s c actions s' h hbeat
    exact h.beat hp hbeat
  · exact {
      interval := rfl
      conversionTime := rfl
      restarted := fun hactive => absurd hidle hactive
      triggered := fun stage hstage => by simp [History.start, hidle] at hstage
      paced := throughout_nil _
      timely := throughout_nil _ }

/-- Of two reads the later one has its own trigger, which comes after the earlier one. Otherwise the
read before it would be the last transaction that counts. -/
theorem Lawful.triggered_between (hp : p.Lawful)
    {earlier between later : List (Episode Event (Attended δ) κ × Exchange)}
    {first second : Episode Event (Attended δ) κ × Exchange}
    (htimely : Throughout (p.Timely r) (earlier ++ first :: (between ++ second :: later)))
    (hfirst : p.reads first.2.transfer) (hsecond : p.reads second.2.transfer) :
    ∃ m ∈ between, ∃ stage, p.Triggers stage m.2 := by
  have hsplit : earlier ++ first :: (between ++ second :: later) =
      (earlier ++ first :: between) ++ second :: later := by simp
  obtain ⟨_, stage, trigger, _, -, -, hlast, htrigger, -⟩ := htimely _ _ _ hsplit hsecond
  -- The first read counts itself, so the trigger that came last lies behind it.
  have hne : trigger ≠ first := by
    rintro rfl
    exact hp.not_reads_of_triggers htrigger hfirst
  exact ⟨trigger, hlast.mem_after (.inl hfirst) hne, stage, htrigger⟩

/-- An update at a closed gate sends nothing, says nothing and changes nothing. -/
theorem Lawful.attend_closed (hp : p.Lawful) {s : Attended δ} {c : κ} {now : Micros}
    (hupdated : p.updated c = some now) (hclosed : (p.rhythm s.driver).isOpen now = false)
    (bus : β) : (p.attend s c).run bus = ⟨s, bus, []⟩ := by
  have hstep : p.step s.driver c = pure s.driver := hp.resting _ _ _ hupdated hclosed
  simp only [attend, hp.apart c now hupdated, hstep, pure_bind]
  rfl

/-- The same call on both sides keeps two histories alike, since they have the same driver and
bus. -/
theorem Alike.call {full plain : History β Event (Attended δ) κ} (h : p.Alike full plain)
    (c : κ) : p.Alike (full.call p.attend c) (plain.call p.attend c) := by
  obtain ⟨state, bus, past⟩ := full
  obtain ⟨rfl, rfl, hpast⟩ := h
  exact ⟨rfl, rfl, by simp only [History.call, List.filter_append, hpast]; rfl⟩

/-- An update at a closed gate on one side keeps two histories alike. -/
theorem Alike.rest (hp : p.Lawful) {full plain : History β Event (Attended δ) κ}
    (h : p.Alike full plain) {c : κ} {now : Micros} (hupdated : p.updated c = some now)
    (hclosed : (p.rhythm plain.state.driver).isOpen now = false) :
    p.Alike (full.call p.attend c) plain := by
  rw [← h.state] at hclosed
  have hattend := hp.attend_closed hupdated hclosed full.bus
  have hquiet : p.stirs ⟨full.state, c, [], full.state⟩ = false := by
    simp [stirs, hupdated, hclosed]
  have hcall : full.call p.attend c =
      ⟨full.state, full.bus, full.past ++ [⟨full.state, c, [], full.state⟩]⟩ := by
    simp only [History.call, History.episode, hattend]
  rw [hcall]
  exact ⟨h.state, h.bus, by simp [hquiet, h.past]⟩

/-- Histories of padded calls and of the calls themselves are alike, by induction on how they were
padded. -/
theorem Padded.alike (hp : p.Lawful) {s : Attended δ} {bus : β} {calls padded : List κ}
    (hpadded : p.Padded s bus calls padded) {full plain : History β Event (Attended δ) κ}
    (hstate : plain.state = s) (hbus : plain.bus = bus) (h : p.Alike full plain) :
    p.Alike (full.play p.attend padded) (plain.play p.attend calls) := by
  induction hpadded generalizing full plain with
  | done => exact h
  | call c _ ih =>
    subst hstate hbus
    exact ih rfl rfl (h.call c)
  | rest c now hupdated hclosed _ ih =>
    -- Only the full history takes this call; the plain one stays where it is.
    have hrested := h.rest hp hupdated (hstate ▸ hclosed)
    exact ih hstate hbus hrested

/-- A lawful driver that has not been set up before is punctual on every bus. -/
theorem Lawful.punctual (hp : p.Lawful) {start : δ} (hidle : (p.rhythm start).phase = .idle)
    (bus : β) : p.Punctual start bus where
  paced calls := (hp.timed hidle bus calls).paced
  timely calls := (hp.timed hidle bus calls).timely
  single calls _ _ _ _ _ hsplit hfirst hsecond := by
    have htimely := (hp.timed hidle bus calls).timely
    rw [hsplit] at htimely
    exact hp.triggered_between htimely hfirst hsecond
  resting _ _ _ hupdated hclosed := hp.attend_closed hupdated hclosed bus
  undisturbed _ _ hpadded := hpadded.alike hp rfl rfl ⟨rfl, rfl, rfl⟩

end Polled

end AirStation
