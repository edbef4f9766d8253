import AirStation.Bme68x.Configuration
import AirStation.Bme68x.Field
import AirStation.Simulated.Responder

/-!
A simulated BME68x: 256 registers, a pointer for reads, and the fields that the next measurement
will produce. A mode other than sleep, written to its register, starts a measurement that is over at
once: the staged fields are written into the slots, and the next read finds them.

The model does not know how long a measurement takes, and it never refuses anything. Waiting long
enough is the driver's part, and refusing is that of the bus.
-/

namespace AirStation.Bme68x

/-- What a measurement leaves in one field, with its raw values as the device would have measured
them. -/
structure SimulatedField where
  newData : Bool
  gasValid : Bool
  heatStable : Bool
  gasIndex : UInt8
  temperature : UInt32
  pressure : UInt32
  humidity : UInt16
  gas : UInt16
  gasRange : UInt8
deriving DecidableEq, Repr

namespace SimulatedField

/-- About 26.8 °C, 38 %, 1009 hPa and 248 kΩ with typical trimming. -/
def valid : SimulatedField :=
  ⟨true, true, true, 0, 500000, 350000, 20000, 512, 5⟩

/-- The lower twenty bits, left-aligned in three bytes. The lower half of the last byte is zero. -/
def twentyBitBytes (adc : UInt32) : UInt8 × UInt8 × UInt8 :=
  ((adc >>> 12).toUInt8, (adc >>> 4).toUInt8, ((adc <<< 4) &&& 0xF0).toUInt8)

def gasBytes (f : SimulatedField) : UInt8 × UInt8 :=
  ((f.gas >>> 2).toUInt8,
   ((f.gas &&& 0x03).toUInt8 <<< 6) ||| (f.gasRange &&& 0x0F) |||
     (if f.gasValid then Status.gasValid else 0) |||
     (if f.heatStable then Status.heatStable else 0))

/-- Writes the field over the old contents of its slot. The gas bytes of the other variant, and the
registers that no quantity uses, keep what they held. -/
def encode (f : SimulatedField) (variant : Variant) (old : Vector UInt8 fieldLength) :
    Vector UInt8 fieldLength :=
  let (p0, p1, p2) := twentyBitBytes f.pressure
  let (t0, t1, t2) := twentyBitBytes f.temperature
  let (gasHigh, gasLow) := f.gasBytes
  let status := (if f.newData then Status.newData else 0) ||| (f.gasIndex &&& 0x0F)
  let (g13, g14, g15, g16) := match variant with
    | .gasLow => (gasHigh, gasLow, old.get 15, old.get 16)
    | .gasHigh => (old.get 13, old.get 14, gasHigh, gasLow)
  #v[status, old.get 1, p0, p1, p2, t0, t1, t2, Word.high f.humidity, Word.low f.humidity,
    old.get 10, old.get 11, old.get 12, g13, g14, g15, g16]

end SimulatedField

/-- Trimming coefficients close to those of a real part, in the order they are read. -/
def typicalCoefficients : Vector UInt8 42 :=
  #v[0x55, 0x67, 0x03, 0x00, 0x93, 0x8D, 0x42, 0xD7, 0x58, 0x00, 0x21, 0x1B, 0x88, 0xFF,
     0x0F, 0x1E, 0x00, 0x00, 0xC7, 0xF5, 0x39, 0xF0, 0x1E, 0x3F, 0x9A, 0x30, 0x00, 0x2D,
     0x14, 0x78, 0x9C, 0x5D, 0x65, 0xAF, 0xE8, 0xE2, 0x12, 0x2C, 0x00, 0x10, 0x00, 0x00]

/-- The registers of the device, and what the next measurement will bring. The pointer is where the
next read begins. -/
structure Model where
  address : UInt8
  registers : Vector UInt8 256
  pointer : UInt8
  /-- At most three; a measurement uses them up. -/
  staged : List SimulatedField
  /-- Mode bits of the last write that started a measurement. -/
  lastMode : UInt8

namespace Model

def register (m : Model) (register : UInt8) : UInt8 :=
  m.registers.get ⟨register.toNat, register.toNat_lt⟩

def setRegister (m : Model) (register value : UInt8) : Model :=
  { m with registers := m.registers.set register.toNat value register.toNat_lt }

def typicalCoefficient (i : Nat) : UInt8 :=
  typicalCoefficients.toList[i]?.getD 0

/-- The chip id and the typical coefficients are in place, all other registers are zero. -/
def standardRegister (register : Nat) : UInt8 :=
  if register = 0xD0 then chipId
  else if 0x8A ≤ register ∧ register < 0x8A + 23 then typicalCoefficient (register - 0x8A)
  else if 0xE1 ≤ register ∧ register < 0xE1 + 14 then typicalCoefficient (register - 0xE1 + 23)
  else if register < 5 then typicalCoefficient (register + 37)
  else 0

def standard : Model :=
  ⟨0x76, Vector.ofFn fun i => standardRegister i.val, 0, [], 0⟩

/-- Zero is the low-range part, anything else the high-range one. -/
def variant (m : Model) : Variant :=
  .ofId (m.register Register.variantId)

/-- Fields for the next measurement, as many as there are slots; others staged before are
forgotten. -/
def stage (m : Model) (fields : List SimulatedField) : Model :=
  { m with staged := fields.take 3 }

/-- The slot that a register belongs to, and its place there, if it belongs to one. -/
def slotOf? (register : UInt8) : Option (Fin 3 × Fin fieldLength) :=
  let offset := register.toNat - Register.fields.toNat
  if h : Register.fields ≤ register ∧ offset / fieldLength < 3 then
    some (⟨offset / fieldLength, h.2⟩, ⟨offset % fieldLength, Nat.mod_lt _ (by decide)⟩)
  else none

def slotContents (m : Model) (slot : Fin 3) : Vector UInt8 fieldLength :=
  Vector.ofFn fun i => m.register (Register.fields + UInt8.ofNat (fieldLength * slot.val + i.val))

/-- What a measurement makes of a slot. One without a staged field loses its new-data bit and keeps
the rest. -/
def measuredSlot (m : Model) (slot : Fin 3) : Vector UInt8 fieldLength :=
  let old := m.slotContents slot
  match m.staged[slot.val]? with
  | some field => field.encode m.variant old
  | none => Vector.ofFn fun i => if i = 0 then old.get i &&& 0x7F else old.get i

def measuredRegister (m : Model) (register : UInt8) : UInt8 :=
  match slotOf? register with
  | some (slot, place) => (m.measuredSlot slot).get place
  | none => m.register register

/-- A measurement fills the three slots and uses the staged fields up. Forced mode then drops back
to sleep. -/
def measure (m : Model) (mode : UInt8) : Model :=
  let registers := Vector.ofFn fun i : Fin 256 => m.measuredRegister (UInt8.ofNat i.val)
  let measured := { m with registers, staged := [], lastMode := mode }
  if mode = 0x01 then
    measured.setRegister Register.measurementControl
      (measured.register Register.measurementControl &&& 0xFC)
  else measured

/-- A reset clears the configuration and is not itself stored. Trimming and slots stay. -/
def reset (m : Model) : Model :=
  { m with registers := Vector.ofFn fun i : Fin 256 =>
      if 0x5A ≤ i.val ∧ i.val ≤ 0x75 then 0 else m.registers.get i }

def writeRegister (m : Model) (register value : UInt8) : Model :=
  if register = Register.softReset ∧ value = softResetCommand then m.reset
  else if register = Register.measurementControl ∧ value &&& 0x03 ≠ 0 then
    (m.setRegister register value).measure (value &&& 0x03)
  else m.setRegister register value

/-- Pairs of register and value, one write for each; an odd byte at the end is dropped. -/
def writePairs (m : Model) : List UInt8 → Model
  | register :: value :: rest => (m.writeRegister register value).writePairs rest
  | _ => m

/-- A single byte moves the pointer, and more are writes. -/
def receive (m : Model) : List UInt8 → Model
  | [register] => { m with pointer := register }
  | bytes => m.writePairs bytes

/-- Reads run on from the pointer, which stays where it is. -/
def answer (m : Model) (count : Nat) : Vector UInt8 count :=
  Vector.ofFn fun i => m.register (m.pointer + UInt8.ofNat i.val)

instance : Responder Model where
  receive := receive
  answer m count := (m.answer count, m)

end Model

end AirStation.Bme68x
