/-!
Writing a blob: the bytes of each value, one after another, in the form that a reader takes them
from the front. A number is written in as few bytes as it can be, a truth value is one byte, and a
sequence begins with its length.

What is written does not depend on a buffer. The blob is put together first, and `fit` says
afterwards whether it goes into the room there is; so a buffer that is too small never holds half a
value.
-/

namespace AirStation.Blob

/-- Seven bits to a byte, the least significant first, in as few bytes as possible. -/
def varint (n : Nat) : List UInt8 :=
  if n < 0x80 then [UInt8.ofNat n]
  else UInt8.ofNat (n % 0x80 + 0x80) :: varint (n / 0x80)
termination_by n
decreasing_by omega

def bool (b : Bool) : List UInt8 :=
  [if b then 1 else 0]

/-- Four bytes, the least significant first, which is how the bits of a single-precision number are
written. -/
def word32 (w : UInt32) : List UInt8 :=
  [w.toUInt8, (w >>> 8).toUInt8, (w >>> 16).toUInt8, (w >>> 24).toUInt8]

/-- The length of a list as a number, and then its elements one after another. -/
def sequence {α : Type} (element : α → List UInt8) (values : List α) : List UInt8 :=
  varint values.length ++ values.flatMap element

inductive EncodeError where
  | bufferFull
deriving DecidableEq, Repr

def EncodeError.message : EncodeError → String
  | .bufferFull => "The serialize buffer is full"

/-- Bytes go into a buffer whole or not at all. -/
def fit (capacity : Nat) (bytes : List UInt8) : Except EncodeError (List UInt8) :=
  if bytes.length ≤ capacity then .ok bytes else .error .bufferFull

end AirStation.Blob
