import AirStation.Bme68x.Model
import AirStation.Ccs811.Model
import AirStation.Htu21d.Model

/-!
A simulated bus with up to one device of each kind, failures that can be injected once, and
addresses that can be taken offline. A transaction that fails for either reason is answered as if no
device had acknowledged its address, and no device sees it.

The two lists have a fixed room, and what does not fit is dropped without a word. An injected
failure comes before being offline, so it is used up even where the transaction would have failed
anyway.
-/

namespace AirStation

/-- The devices on the bus, and the faults that are to come. -/
structure SimulatedBus where
  htu21d : Option Htu21d.Model
  ccs811 : Option Ccs811.Model
  bme68x : Option Bme68x.Model
  /-- Addresses whose next transaction fails, once for each entry. -/
  pendingFailures : List UInt8
  offline : List UInt8
  /-- Attempted so far, failed ones included. -/
  transactions : Nat

namespace SimulatedBus

def empty : SimulatedBus :=
  ⟨none, none, none, [], [], 0⟩

def maxPendingFailures : Nat := 8

def maxOffline : Nat := 4

/-- Lets the next transaction to the address fail. Without room the request is dropped. -/
def failNext (b : SimulatedBus) (address : UInt8) : SimulatedBus :=
  if b.pendingFailures.length < maxPendingFailures then
    { b with pendingFailures := b.pendingFailures ++ [address] }
  else b

/-- Takes an address off the bus or brings it back. Without room the address stays online. -/
def setOffline (b : SimulatedBus) (address : UInt8) (offline : Bool) : SimulatedBus :=
  let others := b.offline.filter (· != address)
  if offline && others.length < maxOffline then { b with offline := others ++ [address] }
  else { b with offline := others }

/-- The HTU21D has a fixed address; the other two carry theirs. At an address that two devices
share, the first of them in this order answers. -/
def serve (b : SimulatedBus) (address : UInt8) (transfer : Transfer) :
    Response transfer × SimulatedBus :=
  match b.htu21d.filter fun _ => address == 0x40 with
  | some model =>
    let (bytes, model) := Responder.serve model transfer
    (.ok bytes, { b with htu21d := some model })
  | none =>
    match b.ccs811.filter (·.address == address) with
    | some model =>
      let (bytes, model) := Responder.serve model transfer
      (.ok bytes, { b with ccs811 := some model })
    | none =>
      match b.bme68x.filter (·.address == address) with
      | some model =>
        let (bytes, model) := Responder.serve model transfer
        (.ok bytes, { b with bme68x := some model })
      | none => (.error .addressNack, b)

/-- The first entry for the address is used up, and the last entry takes its place. -/
def useFailure (failures : List UInt8) (address : UInt8) : List UInt8 :=
  match failures.getLast? with
  | some last => (failures.set (failures.idxOf address) last).dropLast
  | none => []

/-- A pending failure is used up before the offline addresses are looked at. -/
instance : Bus SimulatedBus where
  transact b address transfer :=
    let b := { b with transactions := b.transactions + 1 }
    if b.pendingFailures.contains address then
      (.error .addressNack, { b with pendingFailures := useFailure b.pendingFailures address })
    else if b.offline.contains address then (.error .addressNack, b)
    else b.serve address transfer

end SimulatedBus

end AirStation
