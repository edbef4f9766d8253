import AirStation.Proofs.Checked.Operation
import AirStation.Snapshot

/-!
The air-quality index and the flattened sample with every operation checked. The lower bound of the
gas scale is never above the upper one, whatever their order in the tuning, and where they are equal
nothing is divided. Every value of a sample fits 32 bits.

The score is worked out once for any arithmetic, so its checks are the same in single precision and
in exact numbers. Readings in whole numbers have sixteen bits and are made a thousand times larger,
and the resistance is cut to the largest signed word.
-/

namespace AirStation

namespace AirQuality.Checked

open AirStation.Checked

section Score

open Arithmetic

variable {α : Type} [Arithmetic α]

/-- The share of the scale that a resistance has reached. The bounds are put in order before
anything is computed with them. -/
def gasPoints (lower upper gas : UInt32) : Checked α :=
  let lower := min lower upper
  if upper = lower then if upper ≤ gas then .ok maxGasPoints else .ok zero
  else do
    let gas ← clamp gas lower upper
    let above ← minus gas lower
    let range ← minus upper lower
    let range ← divisor range.toNat
    return ofInt above.toNat / ofInt range * maxGasPoints

theorem left_le_max (x y : UInt32) : x ≤ max x y := by
  show x ≤ if x ≤ y then y else x
  split
  · assumption
  · exact UInt32.le_refl x

/-- Bounds in the wrong order are equal once the lower one has been lowered, so the clamp and both
differences are safe. -/
theorem gasPoints_eq (lower upper gas : UInt32) :
    (gasPoints lower upper gas : Checked α) = .ok (AirQuality.gasPoints lower upper gas) := by
  unfold gasPoints AirQuality.gasPoints
  dsimp only
  have hle : min lower upper ≤ upper := Std.min_le_right
  generalize min lower upper = lower at *
  split
  · split <;> rfl
  · next hne =>
    have hrange : (0 : Int) < (upper - lower).toNat := by
      have hlt := UInt32.le_iff_toNat_le.mp hle
      have hdistinct := mt UInt32.toNat_inj.mp hne
      rw [UInt32.toNat_sub_of_le _ _ hle]
      omega
    rw [clamp_of_le hle, ok_bind, minus_of_le (left_le_max lower _), ok_bind, minus_of_le hle,
      ok_bind, divisor_of_pos hrange, ok_bind]
    rfl

/-- As they stand in a tuning, reversed bounds would not do for a clamp. -/
example : clamp (20000 : UInt32) 50000 5000 = .error .boundsReversed := rfl

/-- As they stand in a tuning, reversed bounds would not do for a clamp. -/
def scoreOver (reference : α) (lower upper gas : UInt32) (humidity : Int) : Checked UInt8 := do
  let gasPoints ← gasPoints lower upper gas
  let total : α := humidityPoints reference humidity + gasPoints
  return truncate (Arithmetic.clamp total zero hundred + half)

theorem scoreOver_eq (reference : α) (lower upper gas : UInt32) (humidity : Int) :
    scoreOver reference lower upper gas humidity =
      .ok (AirQuality.scoreOver reference lower upper gas humidity) := by
  unfold scoreOver
  rw [gasPoints_eq, ok_bind]
  rfl

end Score

/-- Five points of the index for each that is missing from the score. -/
def indexOfScore (score : UInt8) : Checked UInt16 := do
  let missing ← minus 100 (min score 100)
  let index ← within 0x10000 (missing.toNat * 5)
  return UInt16.ofNat index

theorem indexOfScore_eq (score : UInt8) :
    indexOfScore score = .ok (AirQuality.indexOfScore score) := by
  have hle : min score 100 ≤ 100 := Std.min_le_right
  unfold indexOfScore AirQuality.indexOfScore
  rw [minus_of_le hle, ok_bind]
  generalize 100 - min score 100 = missing
  have hmissing := missing.toNat_lt
  rw [within_of_lt (by omega), ok_bind, UInt16.ofNat_mul, UInt16.ofNat_uInt8ToNat]
  rfl

def assess (tuning : Tuning) (gas : UInt32) (humidity : Int) : Checked AirQuality := do
  let score ← scoreOver tuning.referenceHumidity.value tuning.gasLower tuning.gasUpper gas humidity
  let index ← indexOfScore score
  return ⟨score, index, .ofIndex index.toNat⟩

theorem assess_eq (tuning : Tuning) (gas : UInt32) (humidity : Int) :
    assess tuning gas humidity = .ok (AirQuality.assess tuning gas humidity) := by
  unfold assess
  rw [scoreOver_eq, ok_bind, indexOfScore_eq, ok_bind]
  rfl

end AirQuality.Checked

namespace Snapshot.Checked

open AirStation.Checked

def htu21dValues (r : Htu21d.Reading) : Checked (Vector Int Slot.htu21d.count) := do
  let temperature ← int32 (toMilli r.temperature)
  let humidity ← int32 (toMilli r.humidity)
  return #v[temperature, humidity]

def ccs811Values (r : Ccs811.Reading) : Checked (Vector Int Slot.ccs811.count) := do
  let eco2 ← int32 ((r.eco2.toNat : Int) * 1000)
  let tvoc ← int32 ((r.tvoc.toNat : Int) * 1000)
  return #v[eco2, tvoc]

def bme68xValues (r : Bme68x.Reading) : Checked (Vector Int Slot.bme68x.count) := do
  let temperature ← int32 (toMilli r.temperature)
  let humidity ← int32 (toMilli r.humidity)
  let pressure ← int32 (toMilli r.pressure)
  let gas ← int32 (min (r.gasResistance.toNat : Int) Single.greatestInt32)
  return #v[temperature, humidity, pressure, gas]

def airQualityValues (q : AirQuality) : Checked (Vector Int Slot.airQuality.count) := do
  let index ← int32 ((q.index.toNat : Int) * 1000)
  return #v[index]

/-- Thousandths of a reading in single precision are cut to a signed word when they are made. -/
theorem int32_toMilli (x : Float32) : int32 (toMilli x) = .ok (toMilli x) :=
  int32_truncate _

/-- A thousand times a word of sixteen bits is still a signed word. -/
theorem int32_thousandfold (x : UInt16) :
    int32 ((x.toNat : Int) * 1000) = .ok ((x.toNat : Int) * 1000) := by
  have hx := x.toNat_lt
  apply int32_of_mem
  unfold Single.leastInt32 Single.greatestInt32
  omega

theorem htu21dValues_eq (r : Htu21d.Reading) : htu21dValues r = .ok r.toValues := by
  rw [htu21dValues, int32_toMilli, ok_bind, int32_toMilli, ok_bind]
  rfl

theorem ccs811Values_eq (r : Ccs811.Reading) : ccs811Values r = .ok r.toValues := by
  rw [ccs811Values, int32_thousandfold, ok_bind, int32_thousandfold, ok_bind]
  rfl

theorem bme68xValues_eq (r : Bme68x.Reading) : bme68xValues r = .ok r.toValues := by
  have hgas : int32 (min (r.gasResistance.toNat : Int) Single.greatestInt32) =
      .ok (min (r.gasResistance.toNat : Int) Single.greatestInt32) := by
    apply int32_of_mem
    unfold Single.leastInt32 Single.greatestInt32
    omega
  rw [bme68xValues, int32_toMilli, ok_bind, int32_toMilli, ok_bind, int32_toMilli, ok_bind, hgas,
    ok_bind]
  rfl

theorem airQualityValues_eq (q : AirQuality) : airQualityValues q = .ok q.toValues := by
  rw [airQualityValues, int32_thousandfold, ok_bind]
  rfl

variable {ρ : Type}

def store (slot : Slot) (values : Vector Int slot.count) (sample : Sample) : Checked Sample := do
  let _ ← slice sample.toList slot.start slot.count
  return slot.store values sample

def storeSome (slot : Slot) (reading : Option ρ)
    (toValues : ρ → Checked (Vector Int slot.count)) (sample : Sample) : Checked Sample :=
  match reading with
  | none => .ok sample
  | some reading => do
    let values ← toValues reading
    store slot values sample

theorem storeSome_eq {slot : Slot} (hslot : slot.start + slot.count ≤ sampleSize)
    {toValues : ρ → Checked (Vector Int slot.count)} {values : ρ → Vector Int slot.count}
    (hvalues : ∀ reading, toValues reading = .ok (values reading)) (reading : Option ρ)
    (sample : Sample) :
    storeSome slot reading toValues sample = .ok (slot.storeSome (reading.map values) sample) := by
  cases reading with
  | none => rfl
  | some reading =>
    have hroom : slot.start + slot.count ≤ sample.toList.length := by
      rwa [Vector.length_toList]
    rw [storeSome, hvalues, ok_bind, store, slice_of_le hroom, ok_bind]
    rfl

/-- The readings are stored one after another, as far as there are any. -/
def toSample (s : Snapshot) : Checked Sample := do
  let sample ← storeSome Slot.htu21d s.htu21d htu21dValues .zero
  let sample ← storeSome Slot.ccs811 s.ccs811 ccs811Values sample
  let sample ← storeSome Slot.bme68x s.bme68x bme68xValues sample
  storeSome Slot.airQuality s.airQuality airQualityValues sample

theorem toSample_eq (s : Snapshot) : toSample s = .ok s.toSample := by
  rw [toSample, storeSome_eq (by decide) htu21dValues_eq, ok_bind,
    storeSome_eq (by decide) ccs811Values_eq, ok_bind,
    storeSome_eq (by decide) bme68xValues_eq, ok_bind,
    storeSome_eq (by decide) airQualityValues_eq]
  rfl

end Snapshot.Checked

end AirStation
