/-!
Reading a stored blob. A reader takes bytes from the front and leaves the rest, so what follows a
value is never looked at. Numbers of more than one byte are variable-length: seven bits to a byte,
the least significant first, each byte but the last with its high bit set.

Every reader is a function of the bytes alone and stops at the first thing that is wrong. There is
an upper limit to the bytes of a number, and one to the elements of a sequence, so no input makes a
reader run away.
-/

namespace AirStation.Blob

/-- Why bytes could not be read. The first field that is wrong decides. -/
inductive DecodeError where
  | unexpectedEnd
  | badVarint
  | badBool
  /-- A position that no constructor has. -/
  | unknownVariant
  /-- A sequence with more elements than its holder has room for. -/
  | tooLong
deriving DecidableEq, Repr

def DecodeError.message : DecodeError → String
  | .unexpectedEnd => "Hit the end of buffer, expected more data"
  | .badVarint => "Found a varint that didn't terminate. Is the usize too big for this platform?"
  | .badBool => "Found a bool that wasn't 0 or 1"
  | .unknownVariant | .tooLong => "Serde Deserialization Error"

/-- A computation that takes what it reads off the front of the bytes, or fails. -/
abbrev Reader (α : Type) : Type :=
  StateT (List UInt8) (Except DecodeError) α

/-- How many bytes a number may take, and the largest last byte it may end in when it takes all of
them. Together these are the range of a machine word. -/
structure VarintWidth where
  bytes : Nat
  lastByte : UInt8
deriving DecidableEq, Repr

namespace VarintWidth

def bits16 : VarintWidth := ⟨3, 3⟩

def bits32 : VarintWidth := ⟨5, 15⟩

def bits64 : VarintWidth := ⟨10, 1⟩

end VarintWidth

/-- Reads at most `left` bytes of a number. Zeros at the upper end are no error as long as they fit,
so a number has more than one spelling. -/
def takeVarint (lastByte : UInt8) : (left : Nat) → List UInt8 →
    Except DecodeError (Nat × List UInt8)
  | 0, _ => .error .badVarint
  | _ + 1, [] => .error .unexpectedEnd
  | left + 1, byte :: rest =>
    if byte < 0x80 then
      if left = 0 ∧ lastByte < byte then .error .badVarint else .ok (byte.toNat, rest)
    else do
      let (upper, rest) ← takeVarint lastByte left rest
      return (byte.toNat - 0x80 + 0x80 * upper, rest)

namespace Reader

def fail {α : Type} (error : DecodeError) : Reader α :=
  fun _ => .error error

def byte : Reader UInt8
  | [] => .error .unexpectedEnd
  | b :: rest => .ok (b, rest)

def bool : Reader Bool := do
  match (← byte) with
  | 0 => return false
  | 1 => return true
  | _ => fail .badBool

def varint (width : VarintWidth) : Reader Nat :=
  takeVarint width.lastByte width.bytes

def uint16 : Reader UInt16 := do
  return UInt16.ofNat (← varint .bits16)

def uint32 : Reader UInt32 := do
  return UInt32.ofNat (← varint .bits32)

def int8 : Reader Int8 := do
  return (← byte).toInt8

/-- Four bytes, the least significant first. There is one spelling for each word, and none is
refused. -/
def word32 : Reader UInt32
  | b0 :: b1 :: b2 :: b3 :: rest =>
    .ok (b0.toUInt32 ||| (b1.toUInt32 <<< 8) ||| (b2.toUInt32 <<< 16) ||| (b3.toUInt32 <<< 24),
      rest)
  | _ => .error .unexpectedEnd

/-- A constructor by its position, which is spelled as a number of 32 bits. -/
def variant {α : Type} (constructors : List α) : Reader α := do
  match constructors[(← uint32).toNat]? with
  | some value => return value
  | none => fail .unknownVariant

/-- Reads `count` elements, of which `room` fit. One more than fits is still read before it is
refused, so an error in that one comes first. -/
def elements {α : Type} (element : Reader α) : (room count : Nat) → Reader (List α)
  | _, 0 => return []
  | 0, _ + 1 => do
    let _ ← element
    fail .tooLong
  | room + 1, count + 1 => do
    let first ← element
    let rest ← elements element room count
    return first :: rest

/-- A length and as many elements, for a holder that has room for `room` of them. -/
def sequence {α : Type} (element : Reader α) (room : Nat) : Reader (List α) := do
  elements element room (← varint .bits64)

end Reader

end AirStation.Blob
