import AirStation.Sample

/-!
The latest reading of every sensor at one moment, and its flattened form. A sensor that has not
measured anything yet, or is not there, has no reading.

The readings need not be of the same age: each sensor has its own interval, and one that fails keeps
the reading it had. The air quality is computed for the snapshot and not kept in a sensor.
-/

namespace AirStation

/-- What there is to show of each sensor, and of the air quality, at one moment. -/
structure Snapshot where
  htu21d : Option Htu21d.Reading
  ccs811 : Option Ccs811.Reading
  bme68x : Option Bme68x.Reading
  airQuality : Option AirQuality

def Slot.storeSome (slot : Slot) (values : Option (Vector Int slot.count)) (sample : Sample) :
    Sample :=
  match values with
  | some values => slot.store values sample
  | none => sample

namespace Snapshot

def empty : Snapshot :=
  ⟨none, none, none, none⟩

/-- Stores what there is over a given sample, and leaves the rest of the sample alone. -/
def storeOver (s : Snapshot) (sample : Sample) : Sample :=
  Slot.airQuality.storeSome (s.airQuality.map (·.toValues)) <|
  Slot.bme68x.storeSome (s.bme68x.map (·.toValues)) <|
  Slot.ccs811.storeSome (s.ccs811.map (·.toValues)) <|
  Slot.htu21d.storeSome (s.htu21d.map (·.toValues)) sample

/-- The sample of a snapshot, in which a missing reading leaves zeros. -/
def toSample (s : Snapshot) : Sample :=
  s.storeOver .zero

end Snapshot

end AirStation
