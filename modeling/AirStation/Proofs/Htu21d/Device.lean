import AirStation.Proofs.Htu21d.Steps
import AirStation.Proofs.Simulated.Devices

/-!
What the HTU21D sends. An answer carries the word of the pending measurement, and its checksum is
right unless it is meant not to be. The status bits keep every result apart from the word of all
ones that the device sends unasked.

A device that has not been asked answers all the same, with this word and its checksum, and the
checksum would be accepted. That the driver never meets it is shown for the two of them together,
elsewhere; here it is only said what the word can be told by.
-/

namespace AirStation.Htu21d

namespace Model

/-- The measurement is pending, and its checksum will be right, so the next read brings it. -/
structure Offers (m : Model) (stage : Stage) : Prop where
  pending : m.pending = some stage
  intact : m.corrupt = false

/-- Neither result is all ones, which is what the device sends unasked. Results that were set from a
temperature or a humidity are ordinary. -/
def Ordinary (m : Model) : Prop :=
  m.temperatureRaw ≠ 0xFFFF ∧ m.humidityRaw ≠ 0xFFFF

/-- The first two bytes of an answer are the word that the device shows. -/
theorem wordOf_answer (m : Model) : wordOf (Responder.answer m 3).1 = m.raw := by
  simp only [wordOf, Responder.answer, get_answerBytes]
  exact Word.ofBytes_high_low m.raw

/-- The third byte is the checksum of the other two, unless the device has been told to spoil it. -/
theorem intact_answer (m : Model) : Intact (Responder.answer m 3).1 ↔ m.corrupt = false := by
  have hne : ∀ crc : UInt8, crc ≠ ~~~crc := by
    intro crc h
    have hbit := congrArg (·.toBitVec.getLsbD 0) h
    simp at hbit
  simp only [Intact, Responder.answer, get_answerBytes]
  show crc8 [Word.high m.raw, Word.low m.raw] =
    (if m.corrupt then ~~~crc8 [Word.high m.raw, Word.low m.raw]
      else crc8 [Word.high m.raw, Word.low m.raw]) ↔ _
  cases m.corrupt with
  | false => simp
  | true => simp [hne]

/-- While an ordinary device has a measurement pending, what it shows is not all ones. -/
theorem raw_ne (m : Model) (hordinary : m.Ordinary) (hpending : m.pending.isSome) :
    m.raw ≠ 0xFFFF := by
  unfold raw
  split
  · exact hordinary.1
  · exact hordinary.2
  · next hnone => simp [hnone] at hpending

theorem ordinary_serve {m : Model} (h : m.Ordinary) (transfer : Transfer) :
    (Responder.serve m transfer).2.Ordinary := by
  have hreceive : ∀ bytes, (Responder.receive m bytes).Ordinary := by
    intro bytes
    show (m.receive bytes).Ordinary
    unfold receive
    split <;> exact h
  cases transfer with
  | write bytes => exact hreceive bytes
  | read count => exact h
  | writeRead bytes count => exact hreceive bytes

/-- The status bits of what is set are never both ones, so the device stays ordinary under all
disturbances. -/
theorem ordinary_disturbed {m : Model} (h : m.Ordinary) (d : Disturbance) :
    (m.disturbed d).Ordinary := by
  have hclear : ∀ raw : UInt16, (clearStatus raw).toBitVec.getLsbD 0 = false := by
    intro raw
    simp [clearStatus]
  have hodd : ∀ raw : UInt16, raw.toBitVec.getLsbD 0 = false → raw ≠ 0xFFFF := by
    rintro raw hbit rfl
    exact absurd hbit (by decide)
  cases d with
  | setTemperature celsius => exact ⟨hodd _ (hclear _), h.2⟩
  | setHumidity percent =>
    refine ⟨h.1, hodd _ ?_⟩
    show ((clearStatus _).toBitVec ||| 0x0002#16).getLsbD 0 = false
    rw [BitVec.getLsbD_or, hclear]
    rfl
  | setCorrupt | failNext | setOffline | publish | raiseError | stage => exact h

end Model

end AirStation.Htu21d
