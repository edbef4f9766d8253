import AirStation.Single.Basic

/-!
An air-quality index from gas resistance and humidity. The score runs from 0 to 100, higher for
cleaner air: up to 25 points for a humidity near a comfortable reference and up to 75 for the gas
resistance, which is high in clean air. The index runs from 0 to 500, higher for worse air, and a
category puts it into words.

The score is written once over an arithmetic. It runs in single precision, where each operation
rounds; the same text can be read in exact arithmetic, and what the formula promises is said there.
-/

namespace AirStation

/-- The operations the score is written in, with the comparisons as truth values. `truncate` goes
toward zero and saturates at the ends of a byte. -/
class Arithmetic (α : Type) extends Add α, Sub α, Mul α, Div α, Neg α where
  ofInt : Int → α
  lt : α → α → Bool
  le : α → α → Bool
  truncate : α → UInt8

instance : Arithmetic Float32 where
  ofInt := Float32.ofInt
  lt x y := decide (x < y)
  le x y := decide (x ≤ y)
  truncate := Float32.toUInt8

namespace Arithmetic

variable {α : Type} [Arithmetic α]

def zero : α := ofInt 0

def quarter : α := ofInt 1 / ofInt 4

def half : α := ofInt 1 / ofInt 2

def hundred : α := ofInt 100

def clamp (x lower upper : α) : α :=
  if lt x lower then lower else if lt upper x then upper else x

def magnitude (x : α) : α :=
  if lt x zero then -x else x

/-- At least one, whatever `x` is, so that it can be divided by. What does not compare with one
counts as one. -/
def atLeastOne (x : α) : α :=
  if lt (ofInt 1) x then x else ofInt 1

end Arithmetic

namespace AirQuality

/-- What the score is measured against. Nothing is asked of the three numbers, and the two bounds
may stand in the wrong order. -/
structure Tuning where
  /-- Humidity that scores full marks, in percent. -/
  referenceHumidity : Single
  /-- Ohms that score no gas points. -/
  gasLower : UInt32
  /-- Ohms that score all gas points. -/
  gasUpper : UInt32
deriving DecidableEq, Repr

def Tuning.standard : Tuning :=
  ⟨⟨0x42200000⟩, 5000, 50000⟩

section Score

open Arithmetic

variable {α : Type} [Arithmetic α]

def maxHumidityPoints : α := ofInt 25

def maxGasPoints : α := ofInt 75

/-- Full marks within two points of the reference; from there a ramp down to nothing at 0 and at 100
percent. -/
def humidityPoints (reference : α) (humidity : Int) : α :=
  let h : α := ofInt humidity
  let points : α :=
    if le (magnitude (h - reference)) (ofInt 2) then maxHumidityPoints
    else if lt h reference then quarter / atLeastOne reference * h * hundred
    else quarter * (hundred - h) / atLeastOne (hundred - reference) * hundred
  clamp points zero maxHumidityPoints

/-- Linear between the bounds, with nothing below the lower and all points above the upper one.
Bounds in the wrong order make a step at the upper one. -/
def gasPoints (lower upper gas : UInt32) : α :=
  let lower := min lower upper
  if upper = lower then if upper ≤ gas then maxGasPoints else zero
  else
    let gas := max lower (min gas upper)
    ofInt (gas - lower).toNat / ofInt (upper - lower).toNat * maxGasPoints

/-- All points together, kept between 0 and 100 and rounded to the nearest whole score. -/
def scoreOver (reference : α) (lower upper gas : UInt32) (humidity : Int) : UInt8 :=
  let total : α := humidityPoints reference humidity + gasPoints lower upper gas
  truncate (clamp total zero hundred + half)

end Score

def Tuning.score (t : Tuning) (gas : UInt32) (humidity : Int) : UInt8 :=
  scoreOver t.referenceHumidity.value t.gasLower t.gasUpper gas humidity

/-- Five points of the index for each that is missing from the score. A score above 100 counts as
100. -/
def indexOfScore (score : UInt8) : UInt16 :=
  (100 - min score 100).toUInt16 * 5

/-- The bands of the index, from the best air to the worst. -/
inductive Category where
  | good
  | moderate
  | unhealthyForSensitiveGroups
  | unhealthy
  | veryUnhealthy
  | hazardous
deriving DecidableEq, Repr

namespace Category

def ofIndex (index : Int) : Category :=
  if index ≤ 50 then .good
  else if index ≤ 150 then .moderate
  else if index ≤ 175 then .unhealthyForSensitiveGroups
  else if index ≤ 200 then .unhealthy
  else if index ≤ 300 then .veryUnhealthy
  else .hazardous

def label : Category → String
  | .good => "Good"
  | .moderate => "Moderate"
  | .unhealthyForSensitiveGroups => "Unhealthy for Sensitive Groups"
  | .unhealthy => "Unhealthy"
  | .veryUnhealthy => "Very Unhealthy"
  | .hazardous => "Hazardous"

/-- Fits a display line beside the index, which is why the longer labels are shortened. -/
def shortLabel : Category → String
  | .good => "Good"
  | .moderate => "Moderate"
  | .unhealthyForSensitiveGroups => "Sensitive"
  | .unhealthy => "Unhealthy"
  | .veryUnhealthy => "V.Unhealthy"
  | .hazardous => "Hazardous"

end Category

end AirQuality

structure AirQuality where
  score : UInt8
  index : UInt16
  category : AirQuality.Category
deriving DecidableEq, Repr

/-- The air quality that is published for a resistance and a humidity: the score in single
precision, the index that belongs to it, and its category. -/
def AirQuality.assess (tuning : Tuning) (gas : UInt32) (humidity : Int) : AirQuality :=
  let score := tuning.score gas humidity
  let index := indexOfScore score
  ⟨score, index, .ofIndex index.toNat⟩

end AirStation
