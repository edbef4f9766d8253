/-!
Bytes and the 16-bit words they form, and their hexadecimal text. A word and its two bytes determine
each other (`ofBytes_high_low`, `high_ofBytes`, `low_ofBytes`).

The devices send a word with its more significant byte first; only the trimming of the BME68x has
most of its words the other way round. Hexadecimal text is in upper case unless a caller lowers it.
-/

namespace AirStation

namespace Word

def ofBytes (high low : UInt8) : UInt16 :=
  high.toUInt16 <<< 8 ||| low.toUInt16

def high (word : UInt16) : UInt8 :=
  (word >>> 8).toUInt8

def low (word : UInt16) : UInt8 :=
  word.toUInt8

/-- The two bytes of a word, the more significant one first. -/
def bigEndian (word : UInt16) : List UInt8 :=
  [high word, low word]

theorem toNat_ofBytes (high low : UInt8) :
    (ofBytes high low).toNat = 0x100 * high.toNat + low.toNat := by
  have hHigh := high.toNat_lt
  have hShift : high.toNat <<< 8 < 0x10000 := by
    rw [Nat.shiftLeft_eq]
    omega
  rw [ofBytes, UInt16.toNat_or, UInt16.toNat_shiftLeft]
  simp only [UInt8.toNat_toUInt16, UInt16.toNat_ofNat, Nat.reduceMod, Nat.reducePow]
  rw [Nat.mod_eq_of_lt hShift, ← Nat.shiftLeft_add_eq_or_of_lt low.toNat_lt, Nat.shiftLeft_eq]
  omega

theorem toNat_high (word : UInt16) : (high word).toNat = word.toNat / 0x100 := by
  have hWord := word.toNat_lt
  simp [high, Nat.shiftRight_eq_div_pow]
  omega

theorem toNat_low (word : UInt16) : (low word).toNat = word.toNat % 0x100 := by
  simp [low]

theorem ofBytes_high_low (word : UInt16) : ofBytes (high word) (low word) = word := by
  apply UInt16.toNat_inj.mp
  rw [toNat_ofBytes, toNat_high, toNat_low, Nat.div_add_mod]

theorem high_ofBytes (h l : UInt8) : high (ofBytes h l) = h := by
  apply UInt8.toNat_inj.mp
  have hLow := l.toNat_lt
  rw [toNat_high, toNat_ofBytes]
  omega

theorem low_ofBytes (h l : UInt8) : low (ofBytes h l) = l := by
  apply UInt8.toNat_inj.mp
  have hLow := l.toNat_lt
  rw [toNat_low, toNat_ofBytes]
  omega

end Word

namespace Hex

def digit (n : Nat) : Char :=
  if n < 10 then Char.ofNat ('0'.toNat + n) else Char.ofNat ('A'.toNat + (n - 10))

/-- Two upper-case digits for a byte, the more significant one first. -/
def byte (b : UInt8) : String :=
  String.ofList [digit (b.toNat / 16), digit (b.toNat % 16)]

/-- Four upper-case digits for a word, the more significant byte first. -/
def word (w : UInt16) : String :=
  byte (Word.high w) ++ byte (Word.low w)

/-- Bytes in brackets, as they are shown to a person. -/
def list (bytes : List UInt8) : String :=
  "[" ++ String.intercalate ", " (bytes.map byte) ++ "]"

end Hex

end AirStation
