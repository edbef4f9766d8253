import AirStation.Simulated.Bus

/-!
Slowly varying conditions for a simulated bus, as functions of the seconds gone by. They are
computed in double precision and set in the raw units of each device.

The quantities are waves of different periods, so the sensors do not all reach their ends at the
same time; carbon dioxide and the volatile compounds rise and fall together. Every device is brought
up to date at once, whether or not anybody polls it.
-/

namespace AirStation.Weather

/-- A wave between -1 and 1, which takes about six of its periods to come round. -/
def wave (period seconds : Float) : Float :=
  (seconds / period).sin

/-- The air temperature, between 20 and 26 °C. It comes round in a little over six minutes. -/
def temperature (seconds : Float) : Float :=
  23.0 + 3.0 * wave 60.0 seconds

/-- Relative humidity, between 35 and 55 percent. It comes round in a little over nine minutes. -/
def humidity (seconds : Float) : Float :=
  45.0 + 10.0 * wave 90.0 seconds

/-- Equivalent carbon dioxide, between 400 and 800 ppm. It comes round in less than five minutes. -/
def eco2 (seconds : Float) : UInt16 :=
  (600.0 + 200.0 * wave 45.0 seconds).toUInt16

def tvoc (seconds : Float) : UInt16 :=
  (30.0 + 25.0 * wave 45.0 seconds).toUInt16

/-- The field of a BME68x. The gas range spans roughly 50 kΩ in clean air down to 23 kΩ in stale
air. -/
def field (seconds : Float) : Bme68x.SimulatedField :=
  { Bme68x.SimulatedField.valid with
    temperature := (500000.0 + 15000.0 * wave 60.0 seconds).toUInt32
    humidity := (20000.0 + 2000.0 * wave 90.0 seconds).toUInt16
    pressure := (350000.0 + 3000.0 * (seconds / 120.0).cos).toUInt32
    gas := (512.0 + 400.0 * wave 30.0 seconds).toUInt16
    gasRange := 8 }

/-- Brings every device on the bus up to date with the weather at this second. -/
def apply (seconds : Float) (b : SimulatedBus) : SimulatedBus :=
  { b with
    htu21d := b.htu21d.map fun m =>
      (m.setTemperature (temperature seconds).toFloat32).setHumidity (humidity seconds).toFloat32
    ccs811 := b.ccs811.map (·.publish (eco2 seconds) (tvoc seconds))
    bme68x := b.bme68x.map (·.stage [field seconds]) }

end AirStation.Weather
