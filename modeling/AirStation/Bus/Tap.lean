import AirStation.Bus.Basic

/-!
A tap between the drivers and a bus. It holds a queue of injections: a fault that a coming
transaction meets instead of the bus, or bytes that take the place of what the bus answers. An
injection waits for a transaction to its address and may let some of them pass first.

Through a tap any single transaction can be made to fail, in any of the ways there are, and any
answer can be altered. A transaction that meets a fault here does not reach the bus behind, so no
device sees it.
-/

namespace AirStation

/-- What happens to a transaction in place of what the bus would do. -/
inductive Injected where
  | fault (fault : Fault)
  | bytes (bytes : List UInt8)
deriving DecidableEq, Repr

/-- Something that is waiting for a transaction to an address. -/
structure Injection where
  address : UInt8
  /-- Transactions to let pass. -/
  skip : Nat
  effect : Injected
deriving DecidableEq, Repr

/-- Bytes can only take the place of bytes: they wait for a transaction that reads. -/
def Injection.matches (i : Injection) (address : UInt8) (transfer : Transfer) : Bool :=
  i.address == address &&
    match i.effect with
    | .fault _ => true
    | .bytes _ => transfer.reads

/-- A bus and the injections that wait in front of it. -/
structure Tap (β : Type) where
  bus : β
  queue : List Injection

namespace Tap

/-- The first matching injection is taken from the queue, or let pass once more if it skips. The
others are not touched. -/
def take (address : UInt8) (transfer : Transfer) :
    List Injection → Option Injected × List Injection
  | [] => (none, [])
  | i :: rest =>
    if i.matches address transfer then
      match i.skip with
      | 0 => (some i.effect, rest)
      | skip + 1 => (none, { i with skip } :: rest)
    else
      let (taken, kept) := take address transfer rest
      (taken, i :: kept)

/-- Leading bytes are replaced, surplus ones ignored, so an answer keeps its length. -/
def overwrite {n : Nat} (bytes : List UInt8) (answer : Vector UInt8 n) : Vector UInt8 n :=
  Vector.ofFn fun i => bytes[i.val]?.getD answer[i]

instance {β : Type} [Bus β] : Bus (Tap β) where
  transact tap address transfer :=
    match take address transfer tap.queue with
    | (some (.fault fault), queue) => (.error fault, { tap with queue })
    | (some (.bytes bytes), queue) =>
      let (response, bus) := Bus.transact tap.bus address transfer
      (response.map (overwrite bytes), { bus, queue })
    | (none, queue) =>
      let (response, bus) := Bus.transact tap.bus address transfer
      (response, { bus, queue })

end Tap

end AirStation
