/-!
Single-precision numbers. Every measured quantity is a `Float32`; its arithmetic rounds to the
nearest value after each operation, so the formulas of the sensors fix the order of their
operations. Unsigned words are taken from it by core's `toUInt8`, `toUInt16` and `toUInt32`,
which truncate toward zero, saturate and read a NaN as zero; `truncate` does the same for the
signed 32-bit range.
-/

namespace AirStation

/-- A stored single-precision number, kept as its bits: a `Float32` forgets which NaN it is. -/
structure Single where
  bits : UInt32
deriving DecidableEq, Repr

namespace Single

def value (x : Single) : Float32 :=
  Float32.ofBits x.bits

/-- Keeps a number between two bounds. A NaN stays a NaN and a negative zero stays negative: neither
is below the lower bound. -/
def clamp (x lower upper : Float32) : Float32 :=
  if x < lower then lower else if upper < x then upper else x

def leastInt32 : Int := -2147483648

def greatestInt32 : Int := 2147483647

/-- Toward zero, saturating at the signed 32-bit range; a NaN gives zero. -/
def truncate (x : Float32) : Int :=
  if x < 0 then max leastInt32 (-((-x).toUInt32.toNat : Int))
  else min greatestInt32 (x.toUInt32.toNat : Int)

end Single

end AirStation
