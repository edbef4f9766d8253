import AirStation.Bus.Program
import AirStation.Word

/-!
Text of a bus trace: the address, the bytes written and read, and the fault if the transaction
failed. Bytes asked for and not received are shown by their number.

A line has what was on the wires, in hexadecimal without gaps and with one letter for each
direction, so that the traces of two runs can be compared line by line.
-/

namespace AirStation

def Hex.lower (bytes : List UInt8) : String :=
  (String.join (bytes.map Hex.byte)).toLower

namespace Transfer

def writeText : Transfer → String
  | .write bytes | .writeRead bytes _ => s!" W:{Hex.lower bytes}"
  | .read _ => ""

/-- The part of a transfer that reads, if there is one, with what came of it. -/
def readText (t : Transfer) (outcome : String) : String :=
  if t.reads then " R" ++ outcome else ""

end Transfer

/-- One line of a trace, for a transaction and its outcome. -/
def Exchange.text (e : Exchange) : String :=
  let sent := Hex.lower [e.address] ++ e.transfer.writeText
  match e.response with
  | .ok bytes => sent ++ e.transfer.readText s!":{Hex.lower bytes.toList}"
  | .error fault => sent ++ e.transfer.readText s!"#{e.transfer.readLength}" ++ s!" !{fault.text}"

end AirStation
