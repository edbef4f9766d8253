/-!
Command-line options of the simulation: how long it runs, and which device falls silent now and
then. An argument that is no number counts as missing, and so does a number that is too large for
its word.

The duration is a word of 64 bits. No further limit is set to it, although a duration in
milliseconds may no longer fit in such a word.
-/

namespace AirStation

/-- How long a run is to take, and the address of a device that is to fail from time to time. -/
structure Options where
  /-- A 64-bit word, like the milliseconds that are computed from it. -/
  seconds : UInt64
  /-- Fails for one second out of seven. -/
  flaky : Option UInt8
deriving DecidableEq, Repr

namespace Options

def defaultSeconds : UInt64 := 30

def digit? (base : Nat) (c : Char) : Option Nat :=
  let value :=
    if '0' ≤ c ∧ c ≤ '9' then some (c.toNat - '0'.toNat)
    else if 'a' ≤ c ∧ c ≤ 'f' then some (c.toNat - 'a'.toNat + 10)
    else if 'A' ≤ c ∧ c ≤ 'F' then some (c.toNat - 'A'.toNat + 10)
    else none
  value.filter (· < base)

/-- Digits after an optional plus sign, for a value below the limit. -/
def number? (base limit : Nat) (text : String) : Option Nat :=
  let digits := match text.toList with
    | '+' :: rest => rest
    | all => all
  if digits.isEmpty then none
  else
    (digits.foldlM (fun value c => (digit? base c).map (base * value + ·)) 0).filter (· < limit)

/-- Seconds in decimal, then an address in hexadecimal; further arguments are ignored. -/
def ofArguments (arguments : List String) : Options where
  seconds :=
    ((arguments[0]?.bind (number? 10 UInt64.size)).map UInt64.ofNat).getD defaultSeconds
  flaky := (arguments[1]?.bind (number? 16 UInt8.size)).map UInt8.ofNat

end Options

end AirStation
