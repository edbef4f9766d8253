import AirStation.Proofs.Simulation.Start

/-!
What a run of the simulation says. A picture takes 33 lines of standard output, and nothing else is
printed there; the rest are log lines. After the last tick the baseline is read once more, and the
transactions are reported (`finish_of_read`).

The outputs are a list, and the questions asked of it are how many pictures there are and which of
its log lines complain. Both are answered part by part, for the start, for a tick (`pictures_tick`,
`complaints_tick`) and for the end, and added up over a run elsewhere.
-/

namespace AirStation

namespace Output

def picture? : Output → Option Canvas
  | .picture canvas => some canvas
  | _ => none

end Output

/-- A warning or an error, by the severity that the line is logged with. -/
def LogLine.complains (line : LogLine) : Bool :=
  line.level.rank ≤ Level.warn.rank

/-- The warnings and errors among the log lines of a run. It is empty exactly if nothing went wrong
that anyone was told. -/
def complaints (outputs : List Output) : List LogLine :=
  (outputs.filterMap Output.log?).filter LogLine.complains

/-- What goes to standard output, character by character. Every line ends with a newline, the last
one too. -/
def stdout (outputs : List Output) : List Char :=
  (outputs.flatMap Output.text).flatMap fun line => line.toList ++ ['\n']

section Complaints

@[simp] theorem complaints_nil : complaints [] = [] := rfl

@[simp] theorem complaints_append (first second : List Output) :
    complaints (first ++ second) = complaints first ++ complaints second := by
  simp [complaints]

/-- The log line of an event is as severe as the event, so complaints may be counted before or after
the wording. -/
theorem complaints_events (events : List Event) :
    complaints (events.map .event) = (events.filter Event.complains).map .ofEvent := by
  have hline (e : Event) : (LogLine.ofEvent e).complains = e.complains := rfl
  have hlog : (events.map .event).filterMap Output.log? = events.map .ofEvent := by
    rw [List.filterMap_map]
    exact List.filterMap_eq_map ▸ rfl
  rw [complaints, hlog, List.filter_map]
  rfl

end Complaints

theorem Canvas.halfBlock_ne_newline (top bottom : Bool) : Canvas.halfBlock top bottom ≠ '\n' := by
  cases top <;> cases bottom <;> decide

theorem Canvas.newline_not_mem {c : Canvas} {line : String} (h : line ∈ c.halfBlocks) :
    '\n' ∉ line.toList := by
  obtain ⟨row, -, rfl⟩ := List.mem_map.mp h
  rw [String.toList_ofList]
  intro hnewline
  obtain ⟨column, -, hblock⟩ := List.mem_map.mp hnewline
  exact Canvas.halfBlock_ne_newline _ _ hblock

theorem Output.newline_not_mem {o : Output} {line : String} (h : line ∈ o.text) :
    '\n' ∉ line.toList := by
  cases o with
  | picture canvas =>
    rcases List.mem_append.mp h with hrow | hempty
    · exact Canvas.newline_not_mem hrow
    · obtain rfl := List.mem_singleton.mp hempty
      simp
  | _ => nomatch h

/-- A picture has 32 rows of half blocks and an empty line after them; no other output prints
anything. -/
theorem Output.length_text (o : Output) : o.text.length = 33 * o.picture?.toList.length := by
  cases o with
  | picture canvas => simp [Output.text, picture?, Canvas.halfBlocks, canvasHeight]
  | _ => rfl

theorem length_lines (outputs : List Output) :
    (outputs.flatMap Output.text).length = 33 * (outputs.filterMap Output.picture?).length := by
  induction outputs with
  | nil => rfl
  | cons o rest ih =>
    rw [List.flatMap_cons, List.length_append, ih, o.length_text, List.filterMap_cons]
    cases o.picture? with
    | none => simp
    | some canvas =>
      simp only [Option.toList_some, List.length_cons, List.length_nil]
      omega

/-- Standard output, split at its newlines, gives back the printed lines and an empty rest, since no
line has a newline in it. -/
theorem splitOn_stdout (outputs : List Output) :
    (stdout outputs).splitOn '\n' =
      (outputs.flatMap Output.text).map String.toList ++ [[]] := by
  have hlines : ∀ line ∈ outputs.flatMap Output.text, '\n' ∉ line.toList := by
    intro line hline
    obtain ⟨o, -, htext⟩ := List.mem_flatMap.mp hline
    exact Output.newline_not_mem htext
  unfold stdout
  generalize outputs.flatMap Output.text = lines at hlines ⊢
  induction lines with
  | nil => rfl
  | cons line rest ih =>
    obtain ⟨hline, hrest⟩ := List.forall_mem_cons.mp hlines
    rw [List.flatMap_cons, List.append_assoc, List.singleton_append, List.splitOn,
      List.splitOnP_append_cons_of_forall_mem, ← List.splitOn, ih hrest]
    · rfl
    · intro c hc
      exact beq_eq_false_iff_ne.mpr fun hnewline => hline (hnewline ▸ hc)
    · rfl

/-- So the number of pictures can be read off the number of lines. -/
theorem length_splitOn_stdout (outputs : List Output) :
    ((stdout outputs).splitOn '\n').length =
      33 * (outputs.filterMap Output.picture?).length + 1 := by
  rw [splitOn_stdout, List.length_append, List.length_map, length_lines]
  rfl

namespace Simulation

theorem pictures_events (events : List Event) :
    (events.map .event).filterMap Output.picture? = [] := by
  rw [List.filterMap_map]
  exact List.filterMap_eq_nil_iff.mpr fun _ _ => rfl

/-- The panel is shown on every fifth second, but not at the start, when there is nothing to
show. -/
theorem pictures_showPanel (s : Simulation) :
    (s.showPanel.filterMap Output.picture?).length =
      if 0 < s.now ∧ s.now % panelMillis = 0 then 1 else 0 := by
  unfold showPanel
  split
  · have hlines (lines : List String) :
        (lines.map .panelLine).filterMap Output.picture? = [] := by
      rw [List.filterMap_map]
      exact List.filterMap_eq_nil_iff.mpr fun _ _ => rfl
    dsimp only
    rw [List.filterMap_append, List.filterMap_cons_none (by rfl), hlines]
    rfl
  · rfl

theorem complaints_showPanel (s : Simulation) : complaints s.showPanel = [] := by
  refine List.filter_eq_nil_iff.mpr fun line hline => ?_
  obtain ⟨o, ho, hlog⟩ := List.mem_filterMap.mp hline
  unfold showPanel at ho
  split at ho
  · simp only [List.mem_append, List.mem_cons, List.mem_map, List.not_mem_nil, or_false] at ho
    rcases ho with (rfl | ⟨text, -, rfl⟩) | rfl
    · obtain rfl := Option.some.inj hlog
      exact Bool.false_ne_true
    · obtain rfl := Option.some.inj hlog
      exact Bool.false_ne_true
    · nomatch hlog
  · nomatch ho

/-- A tick complains of what the poll in it complains of, and of nothing else. -/
theorem complaints_tick (s : Simulation) :
    complaints s.tick.2 = (complaintsIn s.pollRun.actions).map .ofEvent := by
  rw [tick_eq]
  dsimp only
  rw [complaints_append, complaints_showPanel, complaints_events, List.append_nil]
  rfl

theorem pictures_tick (s : Simulation) :
    (s.tick.2.filterMap Output.picture?).length =
      if 0 < s.now ∧ s.now % panelMillis = 0 then 1 else 0 := by
  rw [tick_eq]
  dsimp only
  rw [List.filterMap_append, pictures_events, List.nil_append, pictures_showPanel,
    now_changeWeather]

theorem complaints_start (options : Options) : complaints (start options).2 = [] := by
  obtain ⟨⟨-, -, hcalm⟩, -⟩ := start_settled
  have hevents : (installation.events ++ restoration.events).filter Event.complains = [] :=
    List.filter_eq_nil_iff.mpr fun e he => by simpa using List.all_eq_true.mp hcalm e he
  rw [(started options).outputs_eq, complaints_append, complaints_events, hevents]
  rfl

theorem pictures_start (options : Options) : (start options).2.filterMap Output.picture? = [] := by
  rw [(started options).outputs_eq, List.filterMap_append, pictures_events]
  rfl

/-- The end of a run whose baseline can be read: what the reading reports, the record to keep, and
the number of transactions. -/
theorem finish_of_read {s : Simulation}
    {run : Run SimulatedBus Event (Except SensorError (Option BaselineRecord) × Station)}
    {record : BaselineRecord} (hrun : s.station.baseline.run s.bus = run)
    (hok : run.value.1 = .ok (some record)) :
    s.finish.2 = run.events.map .event ++ [.baseline record] ++
      [.transactions run.bus.transactions] := by
  subst hrun
  simp only [finish, readBaseline, perform, hok]

/-- The end of a run whose baseline cannot be read. The failure is told, and the transactions are
reported all the same. -/
theorem finish_of_unread {s : Simulation}
    {run : Run SimulatedBus Event (Except SensorError (Option BaselineRecord) × Station)}
    {error : SensorError} (hrun : s.station.baseline.run s.bus = run)
    (hfailed : run.value.1 = .error error) :
    s.finish.2 = run.events.map .event ++ [.baselineFailed error] ++
      [.transactions run.bus.transactions] := by
  subst hrun
  simp only [finish, readBaseline, perform, hfailed]

variable {options : Options} {n : Nat} {s : Simulation} {crew : Crew} {devices : Devices}

/-- The baseline of the station is that of its CCS811, as a record. -/
theorem run_baseline {station : Station} {ccs : Ccs811.Driver} (hccs : station.ccs811 = some ccs)
    (bus : SimulatedBus) :
    let read := ccs.readBaseline.run bus
    station.baseline.run bus =
      ⟨(read.value.1.map (some ∘ .ofBaseline), { station with ccs811 := some read.value.2 }),
        read.bus, read.actions⟩ := by
  simp only [Station.baseline, hccs, BusM.run_bind, BusM.run, pure, List.append_nil]

theorem not_idle_of_place {τ : Type} {t : Timetable τ} {up : Nat → Bool} {r : Rhythm τ}
    (h : t.Place up n r) : r.phase ≠ .idle := by
  cases h <;> simp_all

theorem complaintsIn_interruption (d : Ccs811.Driver) : complaintsIn d.interruption = [] := by
  unfold Ccs811.Driver.interruption
  cases d.phase <;> rfl

/-- Reading the baseline complains of nothing by itself, even if it fails; the failure is in its
result. -/
theorem complaintsIn_readBaseline {d : Ccs811.Driver} {actions : List (Action Event)}
    {outcome : Except SensorError UInt16 × Ccs811.Driver} (h : d.ReadBaseline actions outcome) :
    complaintsIn actions = [] := by
  cases h with
  | idle => rfl
  | refused | read =>
    rw [complaintsIn_append, complaintsIn_interruption]
    rfl

/-- A driver that is set up and gets an answer has its baseline after a single transaction. -/
theorem read_of_acknowledged {d : Ccs811.Driver} {actions : List (Action Event)}
    {outcome : Except SensorError UInt16 × Ccs811.Driver} (h : d.ReadBaseline actions outcome)
    (hphase : d.phase ≠ .idle)
    (hacknowledged : ∀ x ∈ actions.filterMap Action.exchange?, x.acknowledged = true) :
    (∃ baseline, outcome.1 = .ok baseline) ∧
      (actions.filterMap Action.exchange?).length = 1 := by
  cases h with
  | idle hidle => exact absurd hidle hphase
  | refused hphase fault =>
    rw [List.filterMap_append, d.exchanges_interruption] at hacknowledged
    nomatch hacknowledged _ List.mem_cons_self
  | read hphase bytes =>
    refine ⟨⟨_, rfl⟩, ?_⟩
    rw [List.filterMap_append, d.exchanges_interruption]
    rfl

/-- Within reach the CCS811 gives its baseline after any number of ticks, in one more transaction
and without a complaint. -/
theorem OnSchedule.baseline (h : OnSchedule options n s crew devices)
    (hreached : s.bus.reaches Ccs811.standardAddress = true) :
    let run := s.station.baseline.run s.bus
    ∃ record, run.value.1 = .ok (some record) ∧ complaintsIn run.actions = [] ∧
      run.bus.transactions = s.bus.transactions + 1 := by
  have hdoes := crew.ccs811.readBaseline_does
  rw [h.scheduled.ccs811Address] at hdoes
  obtain ⟨⟨hacknowledged, -⟩, -⟩ := h.furnished.visit_ccs811 hdoes
  rw [hreached] at hacknowledged
  obtain ⟨-, -, htransactions⟩ :=
    SimulatedBus.run_keeps crew.ccs811.readBaseline h.furnished.calm
  have hread := crew.ccs811.readBaseline_always.run s.bus
  obtain ⟨⟨baseline, hbaseline⟩, hcount⟩ := read_of_acknowledged hread
    (not_idle_of_place h.scheduled.ccs811.onTime.place) hacknowledged
  rw [run_baseline h.staffed.ccs811]
  refine ⟨.ofBaseline baseline, ?_, complaintsIn_readBaseline hread,
    htransactions.trans (congrArg _ hcount)⟩
  dsimp only
  rw [hbaseline]
  rfl

end Simulation

end AirStation
