/-!
The two-wire bus as its users see it: one transaction to one address at a time, attempted once,
which either fails as a whole with a `Fault` or returns as many bytes as it asked for. Nothing is
said about how a bus answers, so a statement over every `Bus` instance covers every pattern of
faults and data.

That an answer has the right length is part of the type of a response. A driver that asks for three
bytes gets three or none, and never has to look at how many there are.
-/

namespace AirStation

/-- Why a transaction failed. A missing acknowledgement is told apart by what was not
acknowledged. -/
inductive Fault where
  | bus
  | arbitrationLoss
  | overrun
  | other
  | addressNack
  | dataNack
  | unknownNack
deriving DecidableEq, Repr

def Fault.text : Fault → String
  | .bus => "Bus"
  | .arbitrationLoss => "ArbitrationLoss"
  | .overrun => "Overrun"
  | .other => "Other"
  | .addressNack => "NoAcknowledge(Address)"
  | .dataNack => "NoAcknowledge(Data)"
  | .unknownNack => "NoAcknowledge(Unknown)"

inductive Transfer where
  | write (bytes : List UInt8)
  | read (count : Nat)
  /-- A write and a read under one start condition. -/
  | writeRead (bytes : List UInt8) (count : Nat)
deriving DecidableEq, Repr

namespace Transfer

def readLength : Transfer → Nat
  | .write _ => 0
  | .read count => count
  | .writeRead _ count => count

/-- Whether there is a read at all, be it of no bytes. -/
def reads : Transfer → Bool
  | .write _ => false
  | .read _ => true
  | .writeRead _ _ => true

end Transfer

/-- The bytes read, as many as the transfer asks for, or why there are none. -/
abbrev Response (transfer : Transfer) : Type :=
  Except Fault (Vector UInt8 transfer.readLength)

/-- Something that transactions can be made over. Each of them may change it. -/
class Bus (β : Type) where
  transact : β → UInt8 → (transfer : Transfer) → Response transfer × β

structure BusError where
  address : UInt8
  fault : Fault
deriving DecidableEq, Repr

end AirStation
