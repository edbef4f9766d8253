import AirStation.Blob.Reader
import AirStation.Blob.Writer

/-!
The saved baseline of the CCS811. The device learns its baseline slowly after power-up, so it is
read now and then, stored as a small record, and written back later. A record starts with the
version of its layout.

The bytes of a record may come from memory that has never been written, so decoding trusts nothing:
what is cut short or badly spelled is a decode error, and a record of another version is told apart
from both.
-/

namespace AirStation

open Blob

/-- What is stored: the version of the layout, and the baseline as the device gave it. -/
structure BaselineRecord where
  version : UInt8
  baseline : UInt16
deriving DecidableEq, Repr

/-- Why bytes are no record of this version, or a record does not go into its buffer. -/
inductive StorageError where
  | decode (cause : DecodeError)
  | encode (cause : EncodeError)
  | unsupportedVersion (found : UInt8)
deriving DecidableEq, Repr

def StorageError.message : StorageError → String
  | .decode cause => s!"Baseline record decode failed: {cause.message}"
  | .encode cause => s!"Baseline record encode failed: {cause.message}"
  | .unsupportedVersion found => s!"Unsupported baseline record version {found.toNat}"

namespace BaselineRecord

def currentVersion : UInt8 := 1

/-- A buffer of this many bytes holds every record, since a version takes one byte and a baseline
three at most. -/
def maxLength : Nat := 8

def ofBaseline (baseline : UInt16) : BaselineRecord :=
  ⟨currentVersion, baseline⟩

def toBlob (r : BaselineRecord) : List UInt8 :=
  r.version :: varint r.baseline.toNat

def encode (r : BaselineRecord) (capacity : Nat) : Except StorageError (List UInt8) :=
  Except.mapError .encode (fit capacity r.toBlob)

def read : Reader BaselineRecord := do
  return ⟨← Reader.byte, ← Reader.uint16⟩

/-- A record of another layout is refused, but only once it has been read in full. Bytes behind the
record are ignored. -/
def decode (bytes : List UInt8) : Except StorageError BaselineRecord :=
  match read.run bytes with
  | .error cause => .error (.decode cause)
  | .ok (record, _) =>
    if record.version = currentVersion then .ok record
    else .error (.unsupportedVersion record.version)

end BaselineRecord

end AirStation
