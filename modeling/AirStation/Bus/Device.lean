import AirStation.Bus.Program
import AirStation.Word

/-!
One device on the bus, spoken to through its registers. Each operation is a single transaction,
except that a block too long for the frame fails before it reaches the bus. Nothing is tried again,
and what an operation returns is what the bus has said.

The operations are computations without a bus. They are put together by the drivers, and it is the
whole driver that is played against a bus in the end.
-/

namespace AirStation.Device

variable {ε : Type}

/-- Bytes that may follow the register in a block write. -/
def maxBlockPayload : Nat := 8

def write (address : UInt8) (bytes : List UInt8) : BusM ε (Except Fault Unit) :=
  .exchange address (.write bytes) fun response => .done (response.map fun _ => ())

def read (address : UInt8) (count : Nat) : BusM ε (Except Fault (Vector UInt8 count)) :=
  .exchange address (.read count) .done

def readRegister (address register : UInt8) (count : Nat) :
    BusM ε (Except Fault (Vector UInt8 count)) :=
  .exchange address (.writeRead [register] count) .done

def readByte (address register : UInt8) : BusM ε (Except Fault UInt8) := do
  return (← readRegister address register 1).map fun bytes => bytes[0]

def writeRegister (address register value : UInt8) : BusM ε (Except Fault Unit) :=
  write address [register, value]

def writeBlock (address register : UInt8) (payload : List UInt8) :
    BusM ε (Except Fault Unit) :=
  if payload.length ≤ maxBlockPayload then write address (register :: payload)
  else .done (.error .other)

end AirStation.Device

namespace AirStation

def BusError.message (e : BusError) : String :=
  "I2C 0x" ++ Hex.byte e.address ++ ": " ++ e.fault.text

end AirStation
