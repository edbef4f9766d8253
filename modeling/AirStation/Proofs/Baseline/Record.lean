import AirStation.Baseline
import AirStation.Proofs.Blob.Format

/-!
The stored form of a baseline: the version of the layout and the value, spelled as a number of
sixteen bits. What follows is never looked at, and memory that was erased or written only in part
holds no record.

Decoding reads the whole record before it looks at the version. So a record of another version is
told apart from one that is cut short or spelled badly, and it is refused for its version only if it
could be read.
-/

namespace AirStation.BaselineRecord

open Blob Reader

/-- A byte for the version, whatever it is, and a number of sixteen bits. -/
def format : Format :=
  .all [.raw 1, .number .bits16]

theorem read_follows : read.Follows format := by
  apply follows_byte.bind
  intro _ _
  apply follows_uint16.bind
  intro _ _
  exact follows_pure _

theorem read_takes (r : BaselineRecord) : read.Takes r.toBlob r := by
  apply (takes_byte r.version).bind
  exact (takes_uint16 r.baseline).map _

theorem run_byte_eq_ok_iff {bytes rest : List UInt8} {b : UInt8} :
    byte.run bytes = .ok (b, rest) ↔ bytes = b :: rest := by
  cases bytes with
  | nil => simp [byte, StateT.run]
  | cons first bytes => simp [byte, StateT.run]

variable {bytes rest : List UInt8} {r : BaselineRecord}

/-- A record is a version byte and any spelling of the baseline, with any bytes behind them. -/
theorem run_read_eq_ok_iff :
    read.run bytes = .ok (r, rest) ↔
      ∃ used, bytes = r.version :: (used ++ rest) ∧ Number .bits16 used r.baseline.toNat := by
  simp only [read, run_bind_eq_ok_iff, run_byte_eq_ok_iff, run_uint16_eq_ok_iff,
    run_pure_eq_ok_iff]
  constructor
  · rintro ⟨version, _, rfl, baseline, _, ⟨used, rfl, hused⟩, rfl, rfl⟩
    exact ⟨used, rfl, hused⟩
  · rintro ⟨used, rfl, hused⟩
    exact ⟨r.version, _, rfl, r.baseline, rest, ⟨used, rfl, hused⟩, rfl, rfl⟩

theorem decode_of_run (h : read.run bytes = .ok (r, rest)) :
    decode bytes =
      if r.version = currentVersion then .ok r else .error (.unsupportedVersion r.version) := by
  rw [decode, h]

theorem decode_of_run_error {cause : DecodeError} (h : read.run bytes = .error cause) :
    decode bytes = .error (.decode cause) := by
  rw [decode, h]

/-- Exactly the bytes that begin with the current version and a spelling of the baseline are
accepted for it. -/
theorem decode_eq_ok_iff :
    decode bytes = .ok r ↔ r.version = currentVersion ∧
      ∃ used rest, bytes = currentVersion :: (used ++ rest) ∧
        Number .bits16 used r.baseline.toNat := by
  constructor
  · intro h
    cases hrun : read.run bytes with
    | error cause =>
      rw [decode_of_run_error hrun] at h
      nomatch h
    | ok outcome =>
      rw [decode_of_run hrun] at h
      split at h
      case isTrue hversion =>
        obtain rfl := Except.ok.inj h
        obtain ⟨used, hsplit, hused⟩ := run_read_eq_ok_iff.mp hrun
        exact ⟨hversion, used, outcome.2, hversion ▸ hsplit, hused⟩
      case isFalse => nomatch h
  · rintro ⟨hversion, used, rest, rfl, hused⟩
    have hrun := run_read_eq_ok_iff.mpr ⟨used, congrArg (· :: (used ++ rest)) hversion.symm, hused⟩
    rw [decode_of_run hrun, if_pos hversion]

/-- A record is refused for its version exactly if it can be read and has another one. -/
theorem decode_eq_unsupported_iff {version : UInt8} :
    decode bytes = .error (.unsupportedVersion version) ↔ version ≠ currentVersion ∧
      ∃ used rest n, bytes = version :: (used ++ rest) ∧ Number .bits16 used n := by
  constructor
  · intro h
    cases hrun : read.run bytes with
    | error cause =>
      rw [decode_of_run_error hrun] at h
      nomatch h
    | ok outcome =>
      rw [decode_of_run hrun] at h
      split at h
      case isTrue => nomatch h
      case isFalse hversion =>
        obtain rfl := StorageError.unsupportedVersion.inj (Except.error.inj h)
        obtain ⟨used, hsplit, hused⟩ := run_read_eq_ok_iff.mp hrun
        exact ⟨hversion, used, outcome.2, _, hsplit, hused⟩
  · rintro ⟨hversion, used, rest, n, rfl, hused⟩
    have hn : (UInt16.ofNat n).toNat = n := UInt16.toNat_ofNat_of_lt hused.lt_bound
    have hrun : read.run (version :: (used ++ rest)) = .ok (⟨version, UInt16.ofNat n⟩, rest) := by
      refine run_read_eq_ok_iff.mpr ⟨used, rfl, ?_⟩
      rwa [← hn] at hused
    rw [decode_of_run hrun, if_neg hversion]

/-- The record for a baseline is read back whatever stands behind it. -/
theorem decode_toBlob (baseline : UInt16) (suffix : List UInt8) :
    decode ((ofBaseline baseline).toBlob ++ suffix) = .ok (ofBaseline baseline) := by
  rw [decode_of_run (read_takes (ofBaseline baseline) suffix)]
  rfl

theorem decode_cut {part missing : List UInt8} (hsplit : r.toBlob = part ++ missing)
    (hmissing : missing ≠ []) : decode part = .error (.decode .unexpectedEnd) := by
  have htakes := r.read_takes
  rw [hsplit] at htakes
  exact decode_of_run_error (read_follows.run_cut htakes hmissing)

theorem decode_erased (count : Nat) :
    ∃ error, decode (List.replicate count 0xFF) = .error error := by
  cases hdecode : decode (List.replicate count 0xFF) with
  | error error => exact ⟨error, rfl⟩
  | ok r =>
    obtain ⟨-, used, rest, hsplit, -⟩ := decode_eq_ok_iff.mp hdecode
    have hfirst : currentVersion ∈ List.replicate count 0xFF := by
      rw [hsplit]
      exact List.mem_cons_self
    exact absurd (List.eq_of_mem_replicate hfirst) (by decide)

theorem encode_eq_ok_iff {capacity : Nat} {blob : List UInt8} :
    r.encode capacity = .ok blob ↔ blob = r.toBlob ∧ r.toBlob.length ≤ capacity :=
  fit_eq_ok_iff

theorem encode_maxLength (r : BaselineRecord) : r.encode maxLength = .ok r.toBlob := by
  have hlength := length_varint_uint16 r.baseline
  refine encode_eq_ok_iff.mpr ⟨rfl, ?_⟩
  rw [toBlob, List.length_cons, maxLength]
  omega

end AirStation.BaselineRecord
