import AirStation.Blob.Reader
import AirStation.Blob.Writer
import AirStation.Config

/-!
The stored form of a configuration: its fields in order of declaration with nothing between them. A
constructor is its position, the heater profile a length and its steps, and the reference humidity
its four bytes.

Each part has a writer and a reader with the same fields in the same order. The reader of a heater
refuses a profile that is too long, so what has been read is a heater; nothing else of a
configuration can be wrong once its bytes have been read.
-/

namespace AirStation

open Blob

namespace Ccs811.DriveMode

def all : List DriveMode :=
  [.idle, .constantPower1s, .pulse10s, .lowPower60s, .constantPower250ms]

end Ccs811.DriveMode

namespace Bme68x

def Oversampling.all : List Oversampling :=
  [.skip, .x1, .x2, .x4, .x8, .x16]

def Filter.all : List Filter :=
  [.off, .size1, .size3, .size7, .size15, .size31, .size63, .size127]

def Mode.all : List Mode :=
  [.forced, .parallel]

def Mode.position : Mode → Nat
  | .forced => 0
  | .parallel => 1

def HeaterStep.toBlob (s : HeaterStep) : List UInt8 :=
  varint s.temperature.toNat ++ varint s.duration.toNat

def HeaterStep.read : Reader HeaterStep := do
  return ⟨← Reader.uint16, ← Reader.uint16⟩

def Heater.toBlob (h : Heater) : List UInt8 :=
  bool h.enabled ++ sequence HeaterStep.toBlob h.steps ++ varint h.sharedDuration.toNat

/-- Reads the profile into a heater. The sequence reader has made room for no more steps than fit,
so the last test never fails. -/
def Heater.read : Reader Heater := do
  let enabled ← Reader.bool
  let steps ← Reader.sequence HeaterStep.read maxHeaterSteps
  let sharedDuration ← Reader.uint16
  if h : steps.length ≤ maxHeaterSteps then return ⟨enabled, steps, sharedDuration, h⟩
  else Reader.fail .tooLong

def Settings.toBlob (s : Settings) : List UInt8 :=
  varint s.temperature.code.toNat ++ varint s.pressure.code.toNat ++
    varint s.humidity.code.toNat ++ varint s.filter.code.toNat ++ varint s.mode.position ++
    s.heater.toBlob ++ [s.ambient.toUInt8]

def Settings.read : Reader Settings := do
  return {
    temperature := ← Reader.variant Oversampling.all
    pressure := ← Reader.variant Oversampling.all
    humidity := ← Reader.variant Oversampling.all
    filter := ← Reader.variant Filter.all
    mode := ← Reader.variant Mode.all
    heater := ← Heater.read
    ambient := ← Reader.int8 }

end Bme68x

def Htu21dConfig.toBlob (c : Htu21dConfig) : List UInt8 :=
  bool c.enabled ++ varint c.intervalMillis.toNat

def Htu21dConfig.read : Reader Htu21dConfig := do
  return ⟨← Reader.bool, ← Reader.uint32⟩

def Ccs811Config.toBlob (c : Ccs811Config) : List UInt8 :=
  bool c.enabled ++ [c.address] ++ varint c.intervalMillis.toNat ++ varint c.mode.code.toNat ++
    bool c.environmentCompensation

def Ccs811Config.read : Reader Ccs811Config := do
  return ⟨← Reader.bool, ← Reader.byte, ← Reader.uint32, ← Reader.variant Ccs811.DriveMode.all,
    ← Reader.bool⟩

def Bme68xConfig.toBlob (c : Bme68xConfig) : List UInt8 :=
  bool c.enabled ++ [c.address] ++ varint c.intervalMillis.toNat ++ c.settings.toBlob

def Bme68xConfig.read : Reader Bme68xConfig := do
  return ⟨← Reader.bool, ← Reader.byte, ← Reader.uint32, ← Bme68x.Settings.read⟩

def AirQuality.Tuning.toBlob (t : Tuning) : List UInt8 :=
  word32 t.referenceHumidity.bits ++ varint t.gasLower.toNat ++ varint t.gasUpper.toNat

def AirQuality.Tuning.read : Reader Tuning := do
  return ⟨⟨← Reader.word32⟩, ← Reader.uint32, ← Reader.uint32⟩

/-- Why bytes are no configuration, or a configuration does not go into its buffer. -/
inductive ConfigError where
  | decode (cause : DecodeError)
  | encode (cause : EncodeError)
deriving DecidableEq, Repr

def ConfigError.message : ConfigError → String
  | .decode cause => s!"Config decode failed: {cause.message}"
  | .encode cause => s!"Config encode failed: {cause.message}"

namespace Config

def toBlob (c : Config) : List UInt8 :=
  c.htu21d.toBlob ++ c.ccs811.toBlob ++ c.bme68x.toBlob ++ c.tuning.toBlob

def read : Reader Config := do
  return ⟨← Htu21dConfig.read, ← Ccs811Config.read, ← Bme68xConfig.read,
    ← AirQuality.Tuning.read⟩

/-- Reads a configuration off the front of the bytes. Bytes behind the configuration are ignored. -/
def decode (bytes : List UInt8) : Except ConfigError Config :=
  match read.run bytes with
  | .ok (config, _) => .ok config
  | .error cause => .error (.decode cause)

def encode (c : Config) (capacity : Nat) : Except ConfigError (List UInt8) :=
  Except.mapError .encode (fit capacity c.toBlob)

end Config

end AirStation
