import AirStation.AirQuality
import Mathlib.Algebra.Order.Field.Rat
import Mathlib.Data.Rat.Floor
import Mathlib.Tactic.GCongr
import Mathlib.Tactic.Linarith
import Mathlib.Tactic.Positivity

/-!
The score of the air quality in exact arithmetic. Humidity and gas earn their points apart: the
humidity's rise up to the reference and fall behind it, flat within two points of it, and the gas's
rise with the resistance. Both have a most, and together that makes a hundred. Rounding keeps the
order, so the index is never worse for cleaner air or for a humidity nearer to the reference
(`score_bounded_and_monotone`).

Nothing is asked of the tuning. The reference may be any number, and the bounds may be equal or
stand in the wrong order.
-/

namespace AirStation.AirQuality

/-- Numbers that are not rounded. Conversion to a byte cuts the fraction off and keeps the result
between 0 and 255. -/
@[reducible] def unrounded : Arithmetic ℚ where
  ofInt n := n
  lt x y := decide (x < y)
  le x y := decide (x ≤ y)
  truncate x := UInt8.ofNat (min 255 ⌊x⌋.toNat)

/-- The score as its formula says, without the rounding of single precision. -/
def exactScore (reference : ℚ) (lower upper gas : UInt32) (humidity : Int) : UInt8 :=
  @scoreOver ℚ unrounded reference lower upper gas humidity

theorem lt_unrounded (x y : ℚ) : @Arithmetic.lt ℚ unrounded x y = decide (x < y) := rfl

theorem le_unrounded (x y : ℚ) : @Arithmetic.le ℚ unrounded x y = decide (x ≤ y) := rfl

theorem ofInt_unrounded (n : Int) : @Arithmetic.ofInt ℚ unrounded n = n := rfl

theorem clamp_unrounded (x : ℚ) {lower upper : ℚ} (h : lower ≤ upper) :
    @Arithmetic.clamp ℚ unrounded x lower upper = max lower (min x upper) := by
  simp only [Arithmetic.clamp, lt_unrounded, decide_eq_true_eq]
  split
  · next hlow => rw [max_eq_left (min_le_of_left_le hlow.le)]
  · next hlow =>
    split
    · next hhigh => rw [min_eq_right hhigh.le, max_eq_right h]
    · next hhigh => rw [min_eq_left (not_lt.mp hhigh), max_eq_right (not_lt.mp hlow)]

theorem magnitude_unrounded (x : ℚ) : @Arithmetic.magnitude ℚ unrounded x = |x| := by
  simp only [Arithmetic.magnitude, Arithmetic.zero, ofInt_unrounded, Int.cast_zero, lt_unrounded,
    decide_eq_true_eq]
  split
  · next hneg => exact (abs_of_neg hneg).symm
  · next hneg => exact (abs_of_nonneg (not_lt.mp hneg)).symm

theorem atLeastOne_unrounded (x : ℚ) : @Arithmetic.atLeastOne ℚ unrounded x = max x 1 := by
  simp only [Arithmetic.atLeastOne, ofInt_unrounded, Int.cast_one, lt_unrounded, decide_eq_true_eq]
  split
  · next h => exact (max_eq_left h.le).symm
  · next h => exact (max_eq_right (not_lt.mp h)).symm

/-- The points on the way up to the reference, where a humidity of nothing earns none. -/
def risingPoints (reference humidity : ℚ) : ℚ :=
  1 / 4 / max reference 1 * humidity * 100

/-- The points on the way down behind it, where a hundred percent earns none. -/
def fallingPoints (reference humidity : ℚ) : ℚ :=
  1 / 4 * (100 - humidity) / max (100 - reference) 1 * 100

theorem risingPoints_mono (reference : ℚ) {humidity humidity' : ℚ} (h : humidity ≤ humidity') :
    risingPoints reference humidity ≤ risingPoints reference humidity' := by
  unfold risingPoints
  gcongr

theorem fallingPoints_anti (reference : ℚ) {humidity humidity' : ℚ} (h : humidity ≤ humidity') :
    fallingPoints reference humidity' ≤ fallingPoints reference humidity := by
  unfold fallingPoints
  gcongr

/-- The points before they are kept between none and the most. They may be negative, or more than a
humidity can earn. -/
def rawHumidityPoints (reference : ℚ) (humidity : Int) : ℚ :=
  if |humidity - reference| ≤ 2 then 25
  else if humidity < reference then risingPoints reference humidity
  else fallingPoints reference humidity

theorem humidityPoints_unrounded (reference : ℚ) (humidity : Int) :
    @humidityPoints ℚ unrounded reference humidity =
      max 0 (min (rawHumidityPoints reference humidity) 25) := by
  have hpoints (x : ℚ) : @Arithmetic.clamp ℚ unrounded x (@Arithmetic.zero ℚ unrounded)
      (@maxHumidityPoints ℚ unrounded) = max 0 (min x 25) :=
    clamp_unrounded x (show ((0 : Int) : ℚ) ≤ ((25 : Int) : ℚ) by norm_num)
  unfold humidityPoints
  rw [hpoints]
  simp only [le_unrounded, lt_unrounded, ofInt_unrounded, magnitude_unrounded, atLeastOne_unrounded,
    decide_eq_true_eq]
  rfl

/-- The points a humidity earns, between none and twenty-five, after the ramps have been cut off at
both. -/
def humidityShare (reference : ℚ) (humidity : Int) : ℚ :=
  max 0 (min (rawHumidityPoints reference humidity) 25)

theorem humidityShare_nonneg (reference : ℚ) (humidity : Int) :
    0 ≤ humidityShare reference humidity :=
  le_max_left _ _

theorem humidityShare_le (reference : ℚ) (humidity : Int) :
    humidityShare reference humidity ≤ 25 :=
  max_le (by norm_num) (min_le_right _ _)

theorem humidityShare_le_of_raw {reference : ℚ} {humidity humidity' : Int}
    (h : rawHumidityPoints reference humidity ≤ rawHumidityPoints reference humidity') :
    humidityShare reference humidity ≤ humidityShare reference humidity' :=
  max_le_max le_rfl (min_le_min h le_rfl)

theorem humidityShare_near {reference : ℚ} {humidity : Int} (h : |humidity - reference| ≤ 2) :
    humidityShare reference humidity = 25 := by
  rw [humidityShare, rawHumidityPoints, if_pos h]
  norm_num

/-- Below the reference the points rise, up to the last humidity that earns them all. -/
theorem humidityShare_rises {reference : ℚ} {humidity humidity' : Int} (h : humidity ≤ humidity')
    (hreference : humidity' ≤ reference + 2) :
    humidityShare reference humidity ≤ humidityShare reference humidity' := by
  have hcast : (humidity : ℚ) ≤ humidity' := Int.cast_le.mpr h
  by_cases hnear : |humidity' - reference| ≤ 2
  · rw [humidityShare_near hnear]
    exact humidityShare_le reference humidity
  · have hbelow' : (humidity' : ℚ) < reference - 2 := by
      rw [abs_le] at hnear
      by_contra hnot
      exact hnear ⟨by linarith, by linarith⟩
    have hfar : ¬ |(humidity : ℚ) - reference| ≤ 2 := fun hclose => by
      have := (abs_le.mp hclose).1
      linarith
    apply humidityShare_le_of_raw
    rw [rawHumidityPoints, if_neg hfar, if_pos (by linarith), rawHumidityPoints, if_neg hnear,
      if_pos (by linarith)]
    exact risingPoints_mono reference hcast

/-- Behind it they fall, from the first humidity that earns them all. -/
theorem humidityShare_falls {reference : ℚ} {humidity humidity' : Int}
    (hreference : reference - 2 ≤ humidity) (h : humidity ≤ humidity') :
    humidityShare reference humidity' ≤ humidityShare reference humidity := by
  have hcast : (humidity : ℚ) ≤ humidity' := Int.cast_le.mpr h
  by_cases hnear : |humidity - reference| ≤ 2
  · rw [humidityShare_near hnear]
    exact humidityShare_le reference humidity'
  · have habove : reference + 2 < (humidity : ℚ) := by
      rw [abs_le] at hnear
      by_contra hnot
      exact hnear ⟨by linarith, by linarith⟩
    have hfar : ¬ |(humidity' : ℚ) - reference| ≤ 2 := fun hclose => by
      have := (abs_le.mp hclose).2
      linarith
    apply humidityShare_le_of_raw
    rw [rawHumidityPoints, if_neg hfar, if_neg (by linarith), rawHumidityPoints, if_neg hnear,
      if_neg (by linarith)]
    exact fallingPoints_anti reference hcast

/-- The points a resistance earns, up to seventy-five. With bounds in the wrong order, or equal
ones, it is all or nothing. -/
def gasShare (lower upper gas : UInt32) : ℚ :=
  if upper ≤ lower then if upper ≤ gas then 75 else 0
  else
    (max lower.toNat (min gas.toNat upper.toNat) - lower.toNat : Nat) /
      (upper.toNat - lower.toNat : Nat) * 75

theorem min_of_reversed {lower upper : UInt32} (h : upper ≤ lower) : min lower upper = upper := by
  rw [← UInt32.toNat_inj, UInt32.toNat_min]
  exact Nat.min_eq_right (UInt32.le_iff_toNat_le.mp h)

theorem gasPoints_unrounded (lower upper gas : UInt32) :
    @gasPoints ℚ unrounded lower upper gas = gasShare lower upper gas := by
  unfold gasPoints gasShare
  by_cases hstep : upper ≤ lower
  · rw [min_of_reversed hstep]
    simp only [hstep, if_true]
    rfl
  · have hlt := UInt32.not_le.mp hstep
    have hle : lower ≤ upper := UInt32.le_of_lt hlt
    rw [UInt32.min_def, if_pos hle]
    have hne : ¬ upper = lower := fun h => hstep (h ▸ UInt32.le_refl _)
    have hmax : lower ≤ max lower (min gas upper) := by
      rw [UInt32.le_iff_toNat_le, UInt32.toNat_max]
      exact Nat.le_max_left _ _
    simp only [hstep, hne, if_false, ofInt_unrounded]
    rw [UInt32.toNat_sub_of_le _ _ hle, UInt32.toNat_sub_of_le _ _ hmax, UInt32.toNat_max,
      UInt32.toNat_min]
    rfl

/-- Between the bounds the share of their distance is one of a whole. -/
theorem gasShare_of_lt {lower upper : UInt32} (h : ¬ upper ≤ lower) (gas : UInt32) :
    ∃ part ≤ upper.toNat - lower.toNat, gasShare lower upper gas =
        (part : ℚ) / (upper.toNat - lower.toNat : Nat) * 75 ∧
      part = min gas.toNat upper.toNat - lower.toNat := by
  have hlt := UInt32.lt_iff_toNat_lt.mp (UInt32.not_le.mp h)
  refine ⟨_, ?_, if_neg h, ?_⟩ <;> omega

theorem gasShare_nonneg (lower upper gas : UInt32) : 0 ≤ gasShare lower upper gas := by
  unfold gasShare
  split
  · split <;> norm_num
  · positivity

theorem gasShare_le (lower upper gas : UInt32) : gasShare lower upper gas ≤ 75 := by
  by_cases hstep : upper ≤ lower
  · rw [gasShare, if_pos hstep]
    split <;> norm_num
  · obtain ⟨part, hpart, hshare, -⟩ := gasShare_of_lt hstep gas
    have hwhole : (part : ℚ) / (upper.toNat - lower.toNat : Nat) ≤ 1 :=
      div_le_one_of_le₀ (Nat.cast_le.mpr hpart) (Nat.cast_nonneg _)
    rw [hshare]
    linarith

theorem gasShare_mono (lower upper : UInt32) {gas gas' : UInt32} (h : gas ≤ gas') :
    gasShare lower upper gas ≤ gasShare lower upper gas' := by
  by_cases hstep : upper ≤ lower
  · rw [gasShare, if_pos hstep, gasShare, if_pos hstep]
    split
    · next hgas => rw [if_pos (UInt32.le_trans hgas h)]
    · split <;> norm_num
  · obtain ⟨part, -, hshare, hpart⟩ := gasShare_of_lt hstep gas
    obtain ⟨part', -, hshare', hpart'⟩ := gasShare_of_lt hstep gas'
    have hle : part ≤ part' := by
      have := UInt32.le_iff_toNat_le.mp h
      omega
    rw [hshare, hshare']
    gcongr

theorem gasShare_full (lower : UInt32) {upper gas : UInt32} (h : upper ≤ gas) :
    gasShare lower upper gas = 75 := by
  by_cases hstep : upper ≤ lower
  · rw [gasShare, if_pos hstep, if_pos h]
  · obtain ⟨part, -, hshare, hpart⟩ := gasShare_of_lt hstep gas
    have hlt := UInt32.lt_iff_toNat_lt.mp (UInt32.not_le.mp hstep)
    have hle := UInt32.le_iff_toNat_le.mp h
    have hwhole : part = upper.toNat - lower.toNat := by omega
    have hpositive : (0 : ℚ) < (upper.toNat - lower.toNat : Nat) := Nat.cast_pos.mpr (by omega)
    rw [hshare, hwhole, div_self hpositive.ne', one_mul]

/-- All the points together, before they are rounded. There are between none and a hundred of
them. -/
def points (reference : ℚ) (lower upper gas : UInt32) (humidity : Int) : ℚ :=
  humidityShare reference humidity + gasShare lower upper gas

theorem points_nonneg (reference : ℚ) (lower upper gas : UInt32) (humidity : Int) :
    0 ≤ points reference lower upper gas humidity :=
  add_nonneg (humidityShare_nonneg _ _) (gasShare_nonneg _ _ _)

theorem points_le (reference : ℚ) (lower upper gas : UInt32) (humidity : Int) :
    points reference lower upper gas humidity ≤ 100 := by
  have hhumidity := humidityShare_le reference humidity
  have hgas := gasShare_le lower upper gas
  unfold points
  linarith

theorem exactScore_eq (reference : ℚ) (lower upper gas : UInt32) (humidity : Int) :
    exactScore reference lower upper gas humidity =
      UInt8.ofNat (min 255 ⌊points reference lower upper gas humidity + 1 / 2⌋.toNat) := by
  have htotal : @Arithmetic.clamp ℚ unrounded (points reference lower upper gas humidity)
      (@Arithmetic.zero ℚ unrounded) (@Arithmetic.hundred ℚ unrounded) =
        points reference lower upper gas humidity := by
    have hrange : ((0 : Int) : ℚ) ≤ ((100 : Int) : ℚ) := by norm_num
    refine (clamp_unrounded _ hrange).trans ?_
    rw [min_eq_left (by exact_mod_cast points_le _ _ _ _ _),
      max_eq_right (by exact_mod_cast points_nonneg _ _ _ _ _)]
  have hhalf : @Arithmetic.half ℚ unrounded = 1 / 2 := by
    show ((1 : Int) : ℚ) / ((2 : Int) : ℚ) = 1 / 2
    norm_num
  unfold exactScore scoreOver
  rw [humidityPoints_unrounded, gasPoints_unrounded, ← humidityShare, ← points]
  dsimp only
  rw [htotal, hhalf]
  rfl

theorem rounded_points_le (reference : ℚ) (lower upper gas : UInt32) (humidity : Int) :
    ⌊points reference lower upper gas humidity + 1 / 2⌋ ≤ 100 := by
  have hle := points_le reference lower upper gas humidity
  rw [← Int.lt_add_one_iff, Int.floor_lt]
  norm_num
  linarith

/-- The sum stays in its range of itself, so the score is the sum rounded to the nearest number. -/
theorem toNat_exactScore (reference : ℚ) (lower upper gas : UInt32) (humidity : Int) :
    (exactScore reference lower upper gas humidity).toNat =
      ⌊points reference lower upper gas humidity + 1 / 2⌋.toNat := by
  have hle := rounded_points_le reference lower upper gas humidity
  rw [exactScore_eq, UInt8.toNat_ofNat']
  omega

theorem exactScore_le_hundred (reference : ℚ) (lower upper gas : UInt32) (humidity : Int) :
    exactScore reference lower upper gas humidity ≤ 100 := by
  rw [UInt8.le_iff_toNat_le, toNat_exactScore]
  exact Int.toNat_le.mpr (rounded_points_le reference lower upper gas humidity)

theorem exactScore_le_of_points {reference : ℚ} {lower upper gas gas' : UInt32}
    {humidity humidity' : Int}
    (h : points reference lower upper gas humidity ≤ points reference lower upper gas' humidity') :
    exactScore reference lower upper gas humidity ≤
      exactScore reference lower upper gas' humidity' := by
  rw [UInt8.le_iff_toNat_le, toNat_exactScore, toNat_exactScore]
  exact Int.toNat_le_toNat (Int.floor_mono (add_le_add_left h _))

theorem exactScore_full {reference : ℚ} {lower upper gas : UInt32} {humidity : Int}
    (hfull : upper ≤ gas) (hnear : |(humidity : ℚ) - reference| ≤ 2) :
    exactScore reference lower upper gas humidity = 100 := by
  have hpoints : points reference lower upper gas humidity = 100 := by
    rw [points, humidityShare_near hnear, gasShare_full lower hfull]
    norm_num
  have hround : ⌊(100 : ℚ) + 1 / 2⌋ = 100 := by
    rw [Int.floor_eq_iff]
    norm_num
  rw [← UInt8.toNat_inj, toNat_exactScore, hpoints, hround]
  rfl

theorem toNat_indexOfScore (score : UInt8) :
    (indexOfScore score).toNat = 5 * (100 - min score.toNat 100) := by
  have hundred : (100 : UInt8).toNat = 100 := rfl
  have hfive : (5 : UInt16).toNat = 5 := rfl
  have hmin : min score 100 ≤ 100 := by
    rw [UInt8.le_iff_toNat_le, UInt8.toNat_min]
    exact Nat.min_le_right _ _
  rw [indexOfScore, UInt16.toNat_mul, UInt8.toNat_toUInt16, UInt8.toNat_sub_of_le _ _ hmin,
    UInt8.toNat_min, hundred, hfive]
  omega

theorem indexOfScore_anti {score score' : UInt8} (h : score ≤ score') :
    indexOfScore score' ≤ indexOfScore score := by
  have hle := UInt8.le_iff_toNat_le.mp h
  rw [UInt16.le_iff_toNat_le, toNat_indexOfScore, toNat_indexOfScore]
  omega

/-- The humidity has moved toward the reference, or within reach of all its points, from below or
from above. -/
def Nearer (reference : ℚ) (humidity humidity' : Int) : Prop :=
  humidity ≤ humidity' ∧ humidity' ≤ reference + 2 ∨
    reference - 2 ≤ humidity' ∧ humidity' ≤ humidity

/-- What the score promises, whatever the tuning: its most, and the direction in which each quantity
moves it. -/
structure Sensible (reference : ℚ) (upper : UInt32) (score : UInt32 → Int → UInt8) : Prop where
  le_hundred : ∀ gas humidity, score gas humidity ≤ 100
  mono_gas : ∀ gas gas' humidity, gas ≤ gas' → score gas humidity ≤ score gas' humidity
  rises : ∀ gas, ∀ humidity humidity' : Int, humidity ≤ humidity' →
    (humidity' : ℚ) ≤ reference + 2 → score gas humidity ≤ score gas humidity'
  falls : ∀ gas, ∀ humidity humidity' : Int, reference - 2 ≤ (humidity : ℚ) →
    humidity ≤ humidity' → score gas humidity' ≤ score gas humidity
  full : ∀ gas, ∀ humidity : Int, upper ≤ gas → |(humidity : ℚ) - reference| ≤ 2 →
    score gas humidity = 100

/-- For every reference and every pair of bounds the score is at most 100. It never falls when the
resistance grows, rises with the humidity up to two points above the reference and falls with it
from two points below, and is 100 with enough resistance within two points of the reference. The
index is five times what is missing to 100, so it never gets worse when the resistance grows or the
humidity comes nearer to the reference. What is published is the score of the same formula in single
precision, and with it the index that belongs to this score. -/
theorem score_bounded_and_monotone (reference : ℚ) (lower upper : UInt32) :
    Sensible reference upper (exactScore reference lower upper) ∧
    (∀ gas humidity, (indexOfScore (exactScore reference lower upper gas humidity)).toNat =
      5 * (100 - (exactScore reference lower upper gas humidity).toNat)) ∧
    (∀ gas gas' humidity humidity', gas ≤ gas' →
      humidity = humidity' ∨ Nearer reference humidity humidity' →
      indexOfScore (exactScore reference lower upper gas' humidity') ≤
        indexOfScore (exactScore reference lower upper gas humidity)) ∧
    ∀ (tuning : Tuning) (gas : UInt32) (humidity : Int),
      let published := assess tuning gas humidity
      published.score = scoreOver tuning.referenceHumidity.value tuning.gasLower tuning.gasUpper
        gas humidity ∧
      published.index.toNat = 5 * (100 - min published.score.toNat 100) := by
  have hgas (gas gas' : UInt32) (humidity : Int) (h : gas ≤ gas') :
      exactScore reference lower upper gas humidity ≤
        exactScore reference lower upper gas' humidity :=
    exactScore_le_of_points (add_le_add_right (gasShare_mono lower upper h) _)
  have hrises (gas : UInt32) (humidity humidity' : Int) (h : humidity ≤ humidity')
      (hreference : humidity' ≤ reference + 2) :
      exactScore reference lower upper gas humidity ≤
        exactScore reference lower upper gas humidity' :=
    exactScore_le_of_points (add_le_add_left (humidityShare_rises h hreference) _)
  have hfalls (gas : UInt32) (humidity humidity' : Int) (hreference : reference - 2 ≤ humidity)
      (h : humidity ≤ humidity') :
      exactScore reference lower upper gas humidity' ≤
        exactScore reference lower upper gas humidity :=
    exactScore_le_of_points (add_le_add_left (humidityShare_falls hreference h) _)
  refine ⟨⟨exactScore_le_hundred reference lower upper, hgas, hrises, hfalls, ?_⟩, ?_, ?_, ?_⟩
  · intro gas humidity hfull hnear
    exact exactScore_full hfull hnear
  · intro gas humidity
    have hle : (exactScore reference lower upper gas humidity).toNat ≤ 100 :=
      UInt8.le_iff_toNat_le.mp (exactScore_le_hundred reference lower upper gas humidity)
    rw [toNat_indexOfScore, Nat.min_eq_left hle]
  · intro gas gas' humidity humidity' h hhumidity
    apply indexOfScore_anti
    refine UInt8.le_trans (hgas gas gas' humidity h) ?_
    rcases hhumidity with rfl | ⟨hup, hreference⟩ | ⟨hreference, hdown⟩
    · exact UInt8.le_refl _
    · exact hrises gas' humidity humidity' hup hreference
    · exact hfalls gas' humidity' humidity hreference hdown
  · intro tuning gas humidity
    exact ⟨rfl, toNat_indexOfScore _⟩

/-- Bounds in the wrong order, and a reference so high that its way down has no room. The score
still rises with what gets better. -/
theorem score_bounded_and_monotone_reversed :
    let score := exactScore (199 / 2) 50000 5000
    (4000 : UInt32) ≤ 5000 ∧ Nearer (199 / 2) 120 101 ∧ |((101 : Int) : ℚ) - 199 / 2| ≤ 2 ∧
      score 4000 120 = 0 ∧ score 4000 101 = 25 ∧ score 5000 101 = 100 ∧
      score 4000 120 ≤ score 4000 101 ∧
      indexOfScore (score 5000 101) ≤ indexOfScore (score 4000 120) := by
  intro score
  obtain ⟨hsensible, -, hindex, -⟩ := score_bounded_and_monotone (199 / 2) 50000 5000
  have hgas : (4000 : UInt32) ≤ 5000 := by decide
  have hnear : |((101 : Int) : ℚ) - 199 / 2| ≤ 2 := by
    rw [abs_le]
    norm_num
  have hnearer : Nearer (199 / 2) 120 101 := .inr ⟨by norm_num, by decide⟩
  have hfalls := hsensible.falls 4000 101 120 (by norm_num) (by decide)
  exact ⟨hgas, hnearer, hnear, by decide +kernel, by decide +kernel,
    hsensible.full 5000 101 (UInt32.le_refl _) hnear, hfalls,
    hindex 4000 5000 120 101 hgas (.inr hnearer)⟩

end AirStation.AirQuality
