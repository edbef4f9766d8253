import AirStation.Single.Basic

/-!
Decimal text of a single-precision number with a fixed number of places. The number is taken apart
into an integer over a power of two and rounded exactly, a tie going to the even digit. A writer
receives the text in pieces, because a display line is cut between pieces and never inside one.

Every finite number has its exact decimal value, so the digits that are shown are those of the
nearest decimal and not of some approximation to it. Large numbers are written out in full.
-/

namespace AirStation.Single

/-- What the bits stand for. The finite case is `significand * 2 ^ shift / 2 ^ 149`. -/
inductive Parts where
  | nan
  | infinite (negative : Bool)
  | finite (negative : Bool) (significand shift : Nat)
deriving DecidableEq, Repr

def parts (bits : UInt32) : Parts :=
  let negative := bits.toNat.testBit 31
  let exponent := bits.toNat / 0x800000 % 0x100
  let fraction := bits.toNat % 0x800000
  if exponent = 255 then
    if fraction = 0 then .infinite negative else .nan
  else if exponent = 0 then .finite negative fraction 0
  else .finite negative (0x800000 + fraction) (exponent - 1)

/-- The integer nearest to `numerator / denominator`; a tie goes to the even one. -/
def roundHalfEven (numerator denominator : Nat) : Nat :=
  let quotient := numerator / denominator
  let twice := 2 * (numerator % denominator)
  if twice < denominator then quotient
  else if denominator < twice then quotient + 1
  else quotient + quotient % 2

/-- The number `value` in decimal, with zeros in front up to `width` digits. -/
def padded (width value : Nat) : String :=
  let digits := Nat.repr value
  String.ofList (List.replicate (width - digits.length) '0') ++ digits

def sign (negative : Bool) : List String :=
  if negative then ["-"] else []

/-- The pieces are the sign, the integer digits, the point and the digits behind it. Zero keeps its
sign, an infinity is one piece after the sign, and a NaN has none. -/
def pieces (places : Nat) (x : Float32) : List String :=
  match parts x.toBits with
  | .nan => ["NaN"]
  | .infinite negative => sign negative ++ ["inf"]
  | .finite negative significand shift =>
    let unit := Nat.pow 10 places
    let scaled := roundHalfEven ((significand <<< shift) * unit) (1 <<< 149)
    let integer := sign negative ++ [Nat.repr (scaled / unit)]
    if places = 0 then integer else integer ++ [".", padded places (scaled % unit)]

def fixed (places : Nat) (x : Float32) : String :=
  String.join (pieces places x)

end AirStation.Single
