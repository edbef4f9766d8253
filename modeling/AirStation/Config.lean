import AirStation.AirQuality
import AirStation.Bme68x.Settings
import AirStation.Ccs811.Reading

/-!
Configuration of a station: which sensors are there, where and how often they are polled, and the
tuning of the air-quality index. Intervals are in milliseconds and become microseconds when the
station is made.

A configuration is not checked. Two sensors may have been given one address, an interval may be
zero, and the bounds of the tuning may stand in the wrong order; the station works with it as it is.
-/

namespace AirStation

/-- The HTU21D has a fixed address, so there is only its interval to say. -/
structure Htu21dConfig where
  enabled : Bool
  intervalMillis : UInt32
deriving DecidableEq, Repr

def Htu21dConfig.interval (c : Htu21dConfig) : Micros :=
  .ofMillis c.intervalMillis.toNat

/-- Where the CCS811 is, how it measures, and whether it is told the climate. -/
structure Ccs811Config where
  enabled : Bool
  address : UInt8
  intervalMillis : UInt32
  mode : Ccs811.DriveMode
  /-- Tell the device the temperature and humidity that the HTU21D measures. -/
  environmentCompensation : Bool
deriving DecidableEq, Repr

def Ccs811Config.interval (c : Ccs811Config) : Micros :=
  .ofMillis c.intervalMillis.toNat

/-- Where the BME68x is, how often it is polled, and what it measures. -/
structure Bme68xConfig where
  enabled : Bool
  address : UInt8
  intervalMillis : UInt32
  settings : Bme68x.Settings
deriving DecidableEq

def Bme68xConfig.interval (c : Bme68xConfig) : Micros :=
  .ofMillis c.intervalMillis.toNat

structure Config where
  htu21d : Htu21dConfig
  ccs811 : Ccs811Config
  bme68x : Bme68xConfig
  tuning : AirQuality.Tuning
deriving DecidableEq

/-- Every sensor at its usual address, once a second; the heater of the BME68x needs longer to
settle. -/
def Config.standard : Config where
  htu21d := ⟨true, 1000⟩
  ccs811 := ⟨true, 0x5A, 1000, .constantPower1s, true⟩
  bme68x := ⟨true, 0x76, 3000, .standard⟩
  tuning := .standard

end AirStation
