import AirStation.Proofs.Bme68x.Steps
import AirStation.Proofs.Simulated.Devices

/-!
The registers of a simulated BME68x after a write. A write to the control area, and a reset, leave
all registers outside that area alone; a measurement writes the three slots besides and uses the
staged fields up. What a part is, its variant and its trimming, is never written by the driver.

The lemmas say this once for each kind of write, as equations for a single register. Above them
stand two views of the device: what everything that a set-up sends leaves alone (`memory`), and what
a measurement leaves alone as well (`part`).
-/

namespace AirStation.Bme68x

/-- The registers below the slots and above the control area. The variant and the trimming of the
part are among them. -/
def Factory (register : UInt8) : Prop :=
  register < Register.fields ∨ 0x75 < register

instance (register : UInt8) : Decidable (Factory register) :=
  inferInstanceAs (Decidable (_ ∨ _))

namespace Model

variable (m : Model)

theorem register_setRegister (register value other : UInt8) :
    (m.setRegister register value).register other =
      if register = other then value else m.register other := by
  have hother : other.toNat < 256 := other.toNat_lt
  show (m.registers.set register.toNat value register.toNat_lt)[other.toNat] = _
  rw [Vector.getElem_set]
  simp only [UInt8.toNat_inj]
  rfl

theorem register_ofFn (m : Model) (f : Fin 256 → UInt8) (register : UInt8) :
    ({ m with registers := Vector.ofFn f } : Model).register register =
      f ⟨register.toNat, register.toNat_lt⟩ := by
  have hregister : register.toNat < 256 := register.toNat_lt
  show (Vector.ofFn f)[register.toNat] = _
  rw [Vector.getElem_ofFn]

theorem register_reset (register : UInt8) :
    m.reset.register register =
      if Control register then 0 else m.register register := by
  rw [reset, register_ofFn]
  rfl

/-- After a measurement a register holds what was measured for its slot, if it belongs to one. -/
theorem register_measure (mode : UInt8) {register : UInt8}
    (h : register ≠ Register.measurementControl) :
    (m.measure mode).register register = m.measuredRegister register := by
  have hmeasured : ∀ m' : Model,
      m'.registers = Vector.ofFn (fun i : Fin 256 => m.measuredRegister (UInt8.ofNat i.val)) →
        m'.register register = m.measuredRegister register := by
    intro m' hm'
    have hregister : register.toNat < 256 := register.toNat_lt
    show m'.registers[register.toNat] = _
    simp only [hm', Vector.getElem_ofFn, UInt8.ofNat_toNat]
  simp only [measure]
  split
  · rw [register_setRegister, if_neg h.symm]
    exact hmeasured _ rfl
  · exact hmeasured _ rfl

theorem staged_measure (mode : UInt8) : (m.measure mode).staged = [] := by
  simp only [measure]
  split <;> simp only [setRegister]

theorem receive_pair (register value : UInt8) :
    Responder.receive m [register, value] = m.writeRegister register value := by
  simp only [Responder.receive, receive, writePairs]

theorem receive_reset :
    Responder.receive m [Register.softReset, softResetCommand] = m.reset := by
  rw [receive_pair, writeRegister, if_pos ⟨rfl, rfl⟩]

/-- A write to the control area that leaves the device asleep sets the register and does nothing
more. -/
theorem receive_configure {register value : UInt8} (hregister : Control register)
    (hasleep : register = Register.measurementControl → value &&& 0x03 = 0) :
    Responder.receive m [register, value] = m.setRegister register value := by
  have hreset : ¬ (register = Register.softReset ∧ value = softResetCommand) := by
    rintro ⟨rfl, -⟩
    exact absurd hregister.2 (by decide)
  have hmeasure : ¬ (register = Register.measurementControl ∧ value &&& 0x03 ≠ 0) :=
    fun h => h.2 (hasleep h.1)
  rw [receive_pair, writeRegister, if_neg hreset, if_neg hmeasure]

/-- A mode other than sleep, written to its register, starts a measurement at once. -/
theorem receive_trigger {value : UInt8} (hvalue : value &&& 0x03 ≠ 0) :
    Responder.receive m [Register.measurementControl, value] =
      (m.setRegister Register.measurementControl value).measure (value &&& 0x03) := by
  have hreset : ¬ (Register.measurementControl = Register.softReset ∧ value = softResetCommand) :=
    fun h => absurd h.1 (by decide)
  rw [receive_pair, writeRegister, if_neg hreset, if_pos ⟨rfl, hvalue⟩]

/-- The registers outside the control area, and the staged fields. A set-up changes neither. -/
def memory : (UInt8 → Option UInt8) × List SimulatedField :=
  (fun register => if Control register then none else some (m.register register), m.staged)

theorem memory_setRegister {register : UInt8} (h : Control register) (value : UInt8) :
    (m.setRegister register value).memory = m.memory := by
  refine Prod.ext (funext fun other => ?_) rfl
  simp only [memory]
  split
  · rfl
  · rename_i hother
    rw [register_setRegister, if_neg]
    rintro rfl
    exact hother h

theorem memory_reset : m.reset.memory = m.memory := by
  refine Prod.ext (funext fun other => ?_) (by simp only [memory, reset])
  simp only [memory]
  split
  · rfl
  · rename_i hother
    rw [register_reset, if_neg hother]

variable {m} {m' : Model}

theorem register_of_memory (h : m'.memory = m.memory) {register : UInt8}
    (hregister : ¬ Control register) : m'.register register = m.register register := by
  have hat := congrFun (congrArg Prod.fst h) register
  simp only [memory, if_neg hregister] at hat
  exact Option.some.inj hat

theorem staged_of_memory (h : m'.memory = m.memory) : m'.staged = m.staged :=
  congrArg Prod.snd h

/-- Neighbouring registers, as a read of several bytes brings them. Behind the last register the
first one follows. -/
def block (m : Model) (start : UInt8) (count : Nat) : Vector UInt8 count :=
  Vector.ofFn fun i => m.register (start + UInt8.ofNat i.val)

@[simp] theorem answer_select (m : Model) (register : UInt8) (count : Nat) :
    Responder.answer (Responder.receive m [register]) count =
      (m.block register count, { m with pointer := register }) :=
  rfl

/-- The calibration that the three blocks of the part stand for, put together as the driver does. -/
def trimming (m : Model) : Calibration :=
  .ofCoefficients (m.block 0x8A 23 ++ m.block 0xE1 14 ++ m.block 0x00 5)

/-- What the part is: the variant it names and the calibration it carries. -/
def part (m : Model) : Variant × Calibration :=
  (m.variant, m.trimming)

theorem block_congr {start : UInt8} {count : Nat}
    (h : ∀ register, Factory register → m'.register register = m.register register)
    (hblock : ∀ i < count, Factory (start + UInt8.ofNat i)) :
    m'.block start count = m.block start count := by
  apply Vector.ext
  intro i hi
  simp only [block, Vector.getElem_ofFn]
  exact h _ (hblock i hi)

theorem part_congr
    (h : ∀ register, Factory register → m'.register register = m.register register) :
    m'.part = m.part := by
  have hvariant : m'.variant = m.variant := congrArg Variant.ofId (h _ (.inr (by decide)))
  have hfirst : m'.block 0x8A 23 = m.block 0x8A 23 := block_congr h (by decide)
  have hsecond : m'.block 0xE1 14 = m.block 0xE1 14 := block_congr h (by decide)
  have hthird : m'.block 0x00 5 = m.block 0x00 5 := block_congr h (by decide)
  rw [part, part, trimming, trimming, hvariant, hfirst, hsecond, hthird]

theorem slotOf?_factory {register : UInt8} (h : Factory register) : slotOf? register = none := by
  unfold slotOf?
  dsimp only
  rw [dif_neg]
  rintro ⟨hle, hslot⟩
  rcases h with h | h
  · exact absurd hle (UInt8.not_le.mpr h)
  · rw [UInt8.lt_iff_toNat_lt] at h
    have hbase : Register.fields.toNat = 29 := rfl
    have hlimit : (0x75 : UInt8).toNat = 117 := rfl
    simp only [fieldLength] at hslot
    omega

/-- The registers of a slot, in order; the slots follow one another. -/
def slotRegister (slot : Fin 3) (i : Fin fieldLength) : UInt8 :=
  Register.fields + UInt8.ofNat (fieldLength * slot.val + i.val)

theorem toNat_slotRegister (slot : Fin 3) (i : Fin fieldLength) :
    (slotRegister slot i).toNat = 29 + (17 * slot.val + i.val) := by
  have hi : i.val < 17 := i.isLt
  have hslot := slot.isLt
  have hbase : Register.fields.toNat = 29 := rfl
  rw [slotRegister, UInt8.toNat_add, UInt8.toNat_ofNat', hbase]
  simp only [fieldLength]
  omega

theorem slotOf?_slotRegister (slot : Fin 3) (i : Fin fieldLength) :
    slotOf? (slotRegister slot i) = some (slot, i) := by
  have hi : i.val < 17 := i.isLt
  have hslot := slot.isLt
  have hbase : Register.fields.toNat = 29 := rfl
  have hregister := toNat_slotRegister slot i
  have hdiv : ((slotRegister slot i).toNat - Register.fields.toNat) / fieldLength = slot.val := by
    simp only [hregister, hbase, fieldLength]
    omega
  have hmod : ((slotRegister slot i).toNat - Register.fields.toNat) % fieldLength = i.val := by
    simp only [hregister, hbase, fieldLength]
    omega
  unfold slotOf?
  dsimp only
  rw [dif_pos ⟨UInt8.le_iff_toNat_le.mpr (by omega), by omega⟩]
  simp only [hdiv, hmod]

theorem not_control_slotRegister (slot : Fin 3) (i : Fin fieldLength) :
    ¬ Control (slotRegister slot i) := by
  have hi : i.val < 17 := i.isLt
  have hslot := slot.isLt
  rintro ⟨hle, -⟩
  rw [UInt8.le_iff_toNat_le, toNat_slotRegister] at hle
  have hbase : (0x5A : UInt8).toNat = 90 := rfl
  omega

theorem slotContents_congr {slot : Fin 3}
    (h : ∀ i, m'.register (slotRegister slot i) = m.register (slotRegister slot i)) :
    m'.slotContents slot = m.slotContents slot := by
  apply Vector.ext
  intro i hi
  simp only [slotContents, Vector.getElem_ofFn]
  exact h ⟨i, hi⟩

/-- A measurement leaves in each slot what it has measured for it, the old bytes included where it
writes none. -/
theorem slotContents_measure (m : Model) (mode : UInt8) (slot : Fin 3) :
    (m.measure mode).slotContents slot = m.measuredSlot slot := by
  apply Vector.ext
  intro i hi
  have hcontrol : slotRegister slot ⟨i, hi⟩ ≠ Register.measurementControl := by
    intro h
    exact not_control_slotRegister slot ⟨i, hi⟩ (h ▸ by decide)
  simp only [slotContents, Vector.getElem_ofFn]
  refine (m.register_measure mode hcontrol).trans ?_
  rw [measuredRegister, slotOf?_slotRegister]
  rfl

theorem part_measure (m : Model) (mode : UInt8) : (m.measure mode).part = m.part := by
  apply part_congr
  intro register h
  rw [register_measure, measuredRegister, slotOf?_factory h]
  rintro rfl
  exact absurd h (by decide)

theorem not_control_of_factory {register : UInt8} (h : Factory register) : ¬ Control register := by
  rintro ⟨hle, hle'⟩
  rcases h with h | h
  · exact absurd (UInt8.lt_of_lt_of_le h (by decide : Register.fields ≤ 0x5A))
      (UInt8.not_lt.mpr hle)
  · exact absurd hle' (UInt8.not_le.mpr h)

theorem part_of_memory (h : m'.memory = m.memory) : m'.part = m.part :=
  part_congr fun _ hregister => register_of_memory h (not_control_of_factory hregister)

theorem slotContents_of_memory (h : m'.memory = m.memory) (slot : Fin 3) :
    m'.slotContents slot = m.slotContents slot :=
  slotContents_congr fun i => register_of_memory h (not_control_slotRegister slot i)

end Model

end AirStation.Bme68x
