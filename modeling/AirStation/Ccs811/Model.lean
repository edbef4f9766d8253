import AirStation.Ccs811.Reading
import AirStation.Simulated.Responder

/-!
A simulated CCS811. The first byte of a write moves its register pointer, and reads answer from the
register that the pointer stands at. A result that has been published stays ready until it is read
from the result register.

The device takes its climate and its baseline as they are written and does not compute with them. A
register that is not simulated answers nothing, so its bytes are read as zeros.
-/

namespace AirStation.Ccs811

/-- What the registers of the device hold, and where its pointer stands. -/
structure Model where
  address : UInt8
  hardwareId : UInt8
  pointer : UInt8
  started : Bool
  measurementMode : UInt8
  eco2 : UInt16
  tvoc : UInt16
  dataReady : Bool
  errorId : UInt8
  baseline : UInt16
  environment : Option (Vector UInt8 4)
deriving DecidableEq, Repr

namespace Model

def standard : Model :=
  ⟨0x5A, 0x81, 0, false, 0, 400, 0, false, 0, 0, none⟩

/-- A new result, which is there until the next read of the result register. -/
def publish (m : Model) (eco2 tvoc : UInt16) : Model :=
  { m with eco2, tvoc, dataReady := true }

/-- An error of the device, which shows in its status; zero clears the error. -/
def raiseError (m : Model) (errorId : UInt8) : Model :=
  { m with errorId }

def status (m : Model) : UInt8 :=
  0x10 ||| (if m.started then 0x80 else 0) ||| (if m.dataReady then 0x08 else 0) |||
    (if m.errorId = 0 then 0 else 0x01)

def store (m : Model) : UInt8 → List UInt8 → Model
  | 0xF4, _ => { m with started := true }
  | 0x01, mode :: _ => { m with measurementMode := mode }
  | 0x05, a :: b :: c :: d :: _ => { m with environment := some #v[a, b, c, d] }
  | 0x11, high :: low :: _ => { m with baseline := Word.ofBytes high low }
  | _, _ => m

def receive (m : Model) : List UInt8 → Model
  | [] => m
  | register :: payload => { m with pointer := register }.store register payload

def frame (m : Model) : List UInt8 :=
  match m.pointer with
  | 0x00 => [m.status]
  | 0x01 => [m.measurementMode]
  | 0x02 => Word.bigEndian m.eco2 ++ Word.bigEndian m.tvoc ++ [m.status, m.errorId]
  | 0x11 => Word.bigEndian m.baseline
  | 0x20 => [m.hardwareId]
  | 0xE0 => [m.errorId]
  | _ => []

instance : Responder Model where
  receive := receive
  answer m count :=
    (answerBytes m.frame count, if m.pointer = 0x02 then { m with dataReady := false } else m)

end Model

end AirStation.Ccs811
