import AirStation.Htu21d.Reading
import AirStation.Simulated.Responder
import AirStation.Word

/-!
A simulated HTU21D. It remembers which measurement was asked for last, answers it once, and answers
all ones when nothing was asked for. The two raw words are set from outside, in the units of the
device and with its status bit.

A measurement takes no time here: the answer is there as soon as it was asked for. With `corrupt`
the device sends checksums that never hold, and the driver has to notice.
-/

namespace AirStation.Htu21d

/-- What the device has measured, what it was asked for, and how often it was reset. -/
structure Model where
  temperatureRaw : UInt16
  humidityRaw : UInt16
  pending : Option Stage
  /-- Every checksum is sent inverted. -/
  corrupt : Bool
  resets : Nat
deriving DecidableEq, Repr

namespace Model

def setTemperature (m : Model) (celsius : Float32) : Model :=
  { m with temperatureRaw := clearStatus ((celsius + 46.85) / 175.72 * 65536).toUInt16 }

/-- Sets the raw word for a humidity, in which a status bit marks the kind of the result. -/
def setHumidity (m : Model) (percent : Float32) : Model :=
  { m with humidityRaw := clearStatus ((percent + 6) / 125 * 65536).toUInt16 ||| 0x0002 }

def standard : Model :=
  (Model.setTemperature ⟨0, 0, none, false, 0⟩ 21).setHumidity 45

def receive (m : Model) (bytes : List UInt8) : Model :=
  match bytes with
  | 0xF3 :: _ => { m with pending := some .temperature }
  | 0xF5 :: _ => { m with pending := some .humidity }
  | 0xFE :: _ => { m with pending := none, resets := m.resets + 1 }
  | _ => m

def raw (m : Model) : UInt16 :=
  match m.pending with
  | some .temperature => m.temperatureRaw
  | some .humidity => m.humidityRaw
  | none => 0xFFFF

def frame (m : Model) : List UInt8 :=
  let bytes := Word.bigEndian m.raw
  let crc := crc8 bytes
  bytes ++ [if m.corrupt then ~~~crc else crc]

instance : Responder Model where
  receive := receive
  answer m count := (answerBytes m.frame count, { m with pending := none })

end Model

end AirStation.Htu21d
