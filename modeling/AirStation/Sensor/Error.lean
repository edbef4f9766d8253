import AirStation.Bus.Basic

/-!
Why a sensor could not be set up or read, and how that is put into words. The name of the sensor and
of the operation are free text, so that the same kinds of errors serve every driver.

A transaction is made once. What a driver reports is the fault that the bus has returned for it,
together with what the driver was about to do.
-/

namespace AirStation

/-- What went wrong with a sensor: on the bus, in what was received, or in how the driver was
used. -/
inductive SensorError where
  | bus (sensor operation : String) (fault : Fault)
  | checksum (sensor operation : String)
  | unexpectedChipId (sensor : String) (expected found : UInt8)
  /-- The device answered with an error code of its own. -/
  | device (sensor : String) (code : UInt8)
  | notInitialized (sensor : String)
deriving DecidableEq, Repr

def SensorError.message : SensorError → String
  | .bus sensor operation fault =>
    s!"{sensor}: I2C transaction failed during {operation} ({fault.text})"
  | .checksum sensor operation => s!"{sensor}: checksum mismatch on {operation}"
  | .unexpectedChipId sensor expected found =>
    s!"{sensor}: unexpected chip id {found.toNat}, expected {expected.toNat}"
  | .device sensor code => s!"{sensor}: device reported error code {code.toNat}"
  | .notInitialized sensor => s!"{sensor}: driver used before init"

end AirStation
