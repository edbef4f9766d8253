import AirStation.Bus.Basic

/-!
A simulated device: it takes the bytes written to it and answers reads from its own state. A
combined transfer is a write followed by a read. Answering may change a device too, for instance
when it forgets what it has sent.

A device says nothing about faults. It is only asked about transfers that the bus lets through, and
it always has an answer of the right length.
-/

namespace AirStation

/-- A state that takes what is written to it and answers what is read from it. -/
class Responder (σ : Type) where
  receive : σ → List UInt8 → σ
  answer : σ → (count : Nat) → Vector UInt8 count × σ

/-- A device never refuses a transfer; only the bus does. -/
def Responder.serve {σ : Type} [Responder σ] (device : σ) :
    (transfer : Transfer) → Vector UInt8 transfer.readLength × σ
  | .write bytes => (#v[], receive device bytes)
  | .read count => answer device count
  | .writeRead bytes count => answer (receive device bytes) count

/-- The bytes of an answer; reading on behind them gives zeros. -/
def answerBytes (bytes : List UInt8) (count : Nat) : Vector UInt8 count :=
  Vector.ofFn fun i => bytes[i.val]?.getD 0

end AirStation
