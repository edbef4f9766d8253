import AirStation.AirQuality
import AirStation.Bme68x.Field
import AirStation.Ccs811.Reading
import AirStation.Htu21d.Reading

/-!
A flattened sample: ten whole numbers in which every reading has its own slot. Values are in
thousandths, except the gas resistance, which stays in ohms. The last of the ten numbers belongs to
no reading.

A value is a signed number of 32 bits wherever samples are kept, so conversions saturate at the ends
of that range.
-/

namespace AirStation

def sampleSize : Nat := 10

abbrev Sample : Type :=
  Vector Int sampleSize

namespace Sample

def zero : Sample :=
  Vector.replicate sampleSize 0

end Sample

/-- A range of positions in a sample, which belongs to one sensor or to the air quality. -/
structure Slot where
  start : Nat
  count : Nat
deriving DecidableEq, Repr

namespace Slot

def htu21d : Slot := ⟨0, 2⟩

def ccs811 : Slot := ⟨2, 2⟩

def bme68x : Slot := ⟨4, 4⟩

/-- One position for the index. The last position of a sample, which comes behind it, belongs to no
slot. -/
def airQuality : Slot := ⟨8, 1⟩

/-- Writes the values at the slot's positions and leaves the others alone. -/
def store (slot : Slot) (values : Vector Int slot.count) (sample : Sample) : Sample :=
  Vector.ofFn fun i =>
    if h : slot.start ≤ i.val ∧ i.val - slot.start < slot.count then
      values.get ⟨i.val - slot.start, h.2⟩
    else sample.get i

theorem get_store (slot : Slot) (values : Vector Int slot.count) (sample : Sample)
    (i : Fin sampleSize) :
    (slot.store values sample).get i =
      if h : slot.start ≤ i.val ∧ i.val - slot.start < slot.count then
        values.get ⟨i.val - slot.start, h.2⟩
      else sample.get i :=
  Vector.getElem_ofFn i.isLt

end Slot

/-- Thousandths, cut off toward zero and kept within 32 bits. -/
def toMilli (x : Float32) : Int :=
  Single.truncate (x * 1000)

def Htu21d.Reading.toValues (r : Htu21d.Reading) : Vector Int Slot.htu21d.count :=
  #v[toMilli r.temperature, toMilli r.humidity]

def Ccs811.Reading.toValues (r : Ccs811.Reading) : Vector Int Slot.ccs811.count :=
  #v[(r.eco2.toNat : Int) * 1000, (r.tvoc.toNat : Int) * 1000]

/-- Temperature, humidity and pressure in thousandths. The resistance saturates at the largest
signed 32-bit number. -/
def Bme68x.Reading.toValues (r : Bme68x.Reading) : Vector Int Slot.bme68x.count :=
  #v[toMilli r.temperature, toMilli r.humidity, toMilli r.pressure,
    min (r.gasResistance.toNat : Int) Single.greatestInt32]

def AirQuality.toValues (q : AirQuality) : Vector Int Slot.airQuality.count :=
  #v[(q.index.toNat : Int) * 1000]

end AirStation
