import AirStation.Proofs.Ccs811.Steps
import AirStation.Proofs.Simulated.Devices

/-!
What the transactions of the driver do to a simulated CCS811. A write never touches what has been
measured, and the baseline changes when, and only when, it is written back. These are facts about
single transactions; what a whole call keeps follows from the list of its outcomes.
-/

namespace AirStation.Ccs811

namespace Model

variable (m : Model)

/-- What the result registers show, apart from whether the application has been started. It is what
the reader is interested in. -/
def measured : UInt16 × UInt16 × Bool × UInt8 :=
  (m.eco2, m.tvoc, m.dataReady, m.errorId)

@[simp] theorem measured_receive (bytes : List UInt8) :
    (Responder.receive m bytes).measured = m.measured := by
  cases bytes with
  | nil => rfl
  | cons register payload =>
    simp only [Responder.receive, receive, store]
    split <;> rfl

/-- Only a read of the result takes anything away; any other leaves the device as it was. -/
theorem answer_elsewhere (h : m.pointer ≠ Register.result) (count : Nat) :
    (Responder.answer m count).2 = m :=
  if_neg h

/-- A write to another register leaves the baseline as it is, whatever is written. -/
theorem baseline_receive {register : UInt8} (h : register ≠ Register.baseline)
    (payload : List UInt8) :
    (Responder.receive m (register :: payload)).baseline = m.baseline := by
  simp only [Responder.receive, receive, store]
  split
  case h_4 => exact absurd rfl h
  all_goals rfl

/-- Moving the pointer writes nothing, not even when it is moved to the baseline. -/
@[simp] theorem baseline_select (register : UInt8) :
    (Responder.receive m [register]).baseline = m.baseline := by
  simp only [Responder.receive, receive, store]
  split <;> first | rfl | contradiction

@[simp] theorem baseline_answer (count : Nat) :
    (Responder.answer m count).2.baseline = m.baseline := by
  simp only [Responder.answer]
  split <;> rfl

theorem baseline_write (value : UInt16) :
    (Responder.receive m (Register.baseline :: Word.bigEndian value)).baseline = value :=
  Word.ofBytes_high_low value

theorem answer_baseline :
    (Responder.answer (Responder.receive m [Register.baseline]) 2).1 =
      #v[Word.high m.baseline, Word.low m.baseline] := by
  rfl

end Model

namespace Driver

variable {d d' : Driver} {now : Micros} {actions : List (Action Event)}

theorem Init.keeps_baseline {result : Except SensorError Unit}
    (h : d.Init now actions (result, d')) :
    ∀ action ∈ actions, action.Keeps d.address Model.baseline := by
  have hmode : ∀ (m : Model) payload,
      (Responder.receive m (Register.measurementMode :: payload)).baseline = m.baseline :=
    fun m => m.baseline_receive (by decide)
  cases h <;> simp [hmode]

theorem Update.keeps_baseline (h : d.Update now actions d') :
    ∀ action ∈ actions, action.Keeps d.address Model.baseline := by
  have htold : ∀ (m : Model) payload,
      (Responder.receive m (Register.environment :: payload)).baseline = m.baseline :=
    fun m => m.baseline_receive (by decide)
  cases h <;> simp [htold]

theorem keeps_interruption {γ : Type} (quantity : Model → γ) (d : Driver) :
    ∀ action ∈ d.interruption, action.Keeps d.address quantity := by
  unfold interruption
  cases d.phase <;> simp

theorem ReadBaseline.keeps_baseline {result : Except SensorError UInt16}
    (h : d.ReadBaseline actions (result, d')) :
    ∀ action ∈ actions, action.Keeps d.address Model.baseline := by
  cases h with
  | idle => simp
  | refused | read =>
    exact List.forall_mem_append.mpr ⟨d.keeps_interruption Model.baseline, by simp⟩

/-- A baseline that is read is the one that the device holds, if its answers are genuine. -/
theorem ReadBaseline.value_eq {value : UInt16} {m : Model}
    (h : d.ReadBaseline actions (.ok value, d'))
    (hgenuine : AllGenuine d.address m (actions.filterMap Action.exchange?)) :
    value = m.baseline := by
  cases h with
  | read hphase bytes =>
    rw [List.filterMap_append, exchanges_interruption, List.nil_append,
      Action.exchanges_exchanged, allGenuine_cons, genuine_fetched, m.answer_baseline] at hgenuine
    rw [hgenuine.1]
    exact Word.ofBytes_high_low m.baseline

/-- A baseline that was written back is the one that the device holds then. -/
theorem WriteBaseline.baseline_eq {value : UInt16} (m : Model)
    (h : d.WriteBaseline value actions (.ok (), d')) :
    ((actions.filterMap Action.exchange?).foldl (served d.address) m).baseline = value := by
  cases h with
  | written hphase =>
    rw [List.filterMap_append, exchanges_interruption, List.nil_append,
      Action.exchanges_exchanged]
    exact (congrArg Model.baseline (served_wrote d.address m _)).trans (m.baseline_write value)

end Driver

end AirStation.Ccs811
