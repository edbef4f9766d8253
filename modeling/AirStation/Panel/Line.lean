import AirStation.AirQuality
import AirStation.Single.Decimal

/-!
Display lines: one short text for each quantity, with dashes where a reading is missing so that the
layout stays in place. A line has room for 21 characters. Its text comes in pieces, and the line
ends before the first piece that does not fit.

The pieces are those that are written one at a time: a label, the parts of a number, a unit. Nothing
is cut inside a piece, so a number is never shown with some of its digits missing from the middle or
the front.
-/

namespace AirStation.Line

def capacity : Nat := 21

/-- The longest run of pieces from the front that fits. What comes behind a piece without room is
left out, even if it would fit itself. -/
def fitting : (room : Nat) → List String → List String
  | _, [] => []
  | room, piece :: rest =>
    if piece.utf8ByteSize ≤ room then piece :: fitting (room - piece.utf8ByteSize) rest else []

def ofPieces (pieces : List String) : String :=
  String.join (fitting capacity pieces)

def number (n : Nat) : String :=
  Nat.repr n

def temperaturePieces : Option Float32 → List String
  | some celsius => ["T:"] ++ Single.pieces 1 celsius ++ [" C"]
  | none => ["T:--.- C"]

def humidityPieces : Option Float32 → List String
  | some percent => ["H:"] ++ Single.pieces 1 percent ++ [" %"]
  | none => ["H:--.- %"]

def co2Pieces : Option UInt16 → List String
  | some ppm => ["CO2:", number ppm.toNat, "ppm"]
  | none => ["CO2:---ppm"]

def tvocPieces : Option UInt16 → List String
  | some ppb => ["TVOC:", number ppb.toNat, "ppb"]
  | none => ["TVOC:--ppb"]

/-- A pressure is measured in pascals and shown in hectopascals. -/
def pressurePieces : Option Float32 → List String
  | some pascals => ["P:"] ++ Single.pieces 0 (pascals / 100) ++ [" hPa"]
  | none => ["P:---- hPa"]

def gasPieces : Option UInt32 → List String
  | some ohms => ["G:", number ohms.toNat, " ohm"]
  | none => ["G:------ ohm"]

def airQualityPieces : Option AirQuality → List String
  | some q => ["IAQ:", number q.index.toNat, " ", q.category.shortLabel]
  | none => ["IAQ:--"]

def temperature (celsius : Option Float32) : String :=
  ofPieces (temperaturePieces celsius)

def humidity (percent : Option Float32) : String :=
  ofPieces (humidityPieces percent)

def co2 (ppm : Option UInt16) : String :=
  ofPieces (co2Pieces ppm)

def tvoc (ppb : Option UInt16) : String :=
  ofPieces (tvocPieces ppb)

def pressure (pascals : Option Float32) : String :=
  ofPieces (pressurePieces pascals)

def gas (ohms : Option UInt32) : String :=
  ofPieces (gasPieces ohms)

def airQuality (quality : Option AirQuality) : String :=
  ofPieces (airQualityPieces quality)

end AirStation.Line
