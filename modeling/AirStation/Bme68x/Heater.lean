/-!
Register codes of heater durations: six bits of mantissa and two bits that say how often it is
multiplied by four. A duration that does not fit is divided by four until it does, and the digits
that are dropped on the way make the wait a little shorter.

Forced mode encodes milliseconds, parallel mode steps of 0.477 ms, and a step of a parallel profile
lasts a whole number of the shared duration. Both encodings have a cut-off from which on the longest
code is used.
-/

namespace AirStation.Bme68x

/-- The duration is divided by four until it fits six bits; every division adds one to the code's
upper two bits. -/
def waitCode (duration : Nat) : UInt8 :=
  if duration ≤ 0x3F then UInt8.ofNat duration else waitCode (duration / 4) + 64
termination_by duration
decreasing_by omega

/-- The code of a forced-mode duration in milliseconds. From 4032 on it is the longest code. -/
def gasWaitCode (milliseconds : UInt16) : UInt8 :=
  if 0x0FC0 ≤ milliseconds then 0xFF else waitCode milliseconds.toNat

/-- The code of the shared duration in parallel mode, which counts steps of 0.477 ms. From 1923 ms
on it is the longest code. -/
def sharedWaitCode (milliseconds : UInt16) : UInt8 :=
  if 0x0783 ≤ milliseconds then 0xFF else waitCode (milliseconds.toNat * 1000 / 477)

/-- In parallel mode a step lasts a whole number of shared durations, in one byte; more are cut off
at 255. -/
def stepMultiplier (duration : UInt16) : UInt8 :=
  (min duration 0xFF).toUInt8

end AirStation.Bme68x
