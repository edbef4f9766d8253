import AirStation.Proofs.Blob.Writing
import AirStation.Proofs.Config.Layout

/-!
A configuration survives storage: its blob is read back whatever follows it, a blob that is cut
short is refused, and no blob is longer than 107 bytes (`stored_config_round_trips`).

The round trip itself is proved with the layout, part by part. Here are the bounds on the length of
a blob, which come from a heater profile of ten steps and the longest spelling of each number, and
what the functions that encode and decode add: the size of the buffer, and their errors.
-/

namespace AirStation

open Blob

namespace Bme68x

theorem HeaterStep.length_toBlob_le (s : HeaterStep) : s.toBlob.length ≤ 6 := by
  have htemperature := length_varint_uint16 s.temperature
  have hduration := length_varint_uint16 s.duration
  rw [toBlob, List.length_append]
  omega

theorem Heater.length_toBlob_le (h : Heater) : h.toBlob.length ≤ 65 := by
  have hsteps := length_flatMap_le HeaterStep.length_toBlob_le h.steps
  have hroom : h.steps.length ≤ 10 := h.length_steps_le
  have hcount : (varint h.steps.length).length = 1 := length_varint_small (by omega)
  have hduration := length_varint_uint16 h.sharedDuration
  simp only [toBlob, Blob.sequence, List.length_append, length_bool]
  omega

theorem Settings.length_toBlob_le (s : Settings) : s.toBlob.length ≤ 71 := by
  have htemperature := Oversampling.enumerates_all.length_varint s.temperature
  have hpressure := Oversampling.enumerates_all.length_varint s.pressure
  have hhumidity := Oversampling.enumerates_all.length_varint s.humidity
  have hfilter := Filter.enumerates_all.length_varint s.filter
  have hmode := Mode.enumerates_all.length_varint s.mode
  have hheater := s.heater.length_toBlob_le
  simp only [toBlob, List.length_append, List.length_singleton] at *
  omega

end Bme68x

theorem Htu21dConfig.length_toBlob_le (c : Htu21dConfig) : c.toBlob.length ≤ 6 := by
  have hinterval := length_varint_uint32 c.intervalMillis
  simp only [toBlob, List.length_append, length_bool]
  omega

theorem Ccs811Config.length_toBlob_le (c : Ccs811Config) : c.toBlob.length ≤ 9 := by
  have hinterval := length_varint_uint32 c.intervalMillis
  have hmode := Ccs811.DriveMode.enumerates_all.length_varint c.mode
  simp only [toBlob, List.length_append, List.length_singleton, length_bool] at *
  omega

theorem Bme68xConfig.length_toBlob_le (c : Bme68xConfig) : c.toBlob.length ≤ 78 := by
  have hinterval := length_varint_uint32 c.intervalMillis
  have hsettings := c.settings.length_toBlob_le
  simp only [toBlob, List.length_append, List.length_singleton, length_bool]
  omega

theorem AirQuality.Tuning.length_toBlob_le (t : Tuning) : t.toBlob.length ≤ 14 := by
  have hlower := length_varint_uint32 t.gasLower
  have hupper := length_varint_uint32 t.gasUpper
  simp only [toBlob, List.length_append, length_word32]
  omega

namespace Config

theorem length_toBlob_le (c : Config) : c.toBlob.length ≤ 107 := by
  have hhtu21d := c.htu21d.length_toBlob_le
  have hccs811 := c.ccs811.length_toBlob_le
  have hbme68x := c.bme68x.length_toBlob_le
  have htuning := c.tuning.length_toBlob_le
  simp only [toBlob, List.length_append]
  omega

/-- Decoding looks at the front of the bytes and ignores the rest. -/
theorem decode_eq_ok_iff {bytes : List UInt8} {c : Config} :
    decode bytes = .ok c ↔ ∃ rest, read.run bytes = .ok (c, rest) := by
  unfold decode
  cases read.run bytes with
  | error cause => simp
  | ok outcome => simp [Prod.ext_iff]

theorem decode_eq_error_iff {bytes : List UInt8} {error : ConfigError} :
    decode bytes = .error error ↔
      ∃ cause, error = .decode cause ∧ read.run bytes = .error cause := by
  unfold decode
  cases read.run bytes with
  | error cause => simp [eq_comm]
  | ok outcome => simp

theorem encode_eq_ok_iff {c : Config} {capacity : Nat} {blob : List UInt8} :
    c.encode capacity = .ok blob ↔ blob = c.toBlob ∧ c.toBlob.length ≤ capacity :=
  fit_eq_ok_iff

theorem encode_eq_error_iff {c : Config} {capacity : Nat} {error : ConfigError} :
    c.encode capacity = .error error ↔
      error = .encode .bufferFull ∧ capacity < c.toBlob.length :=
  fit_eq_error_iff

/-- A blob is spelled as the format has it. It reads back as the same configuration, to the bit,
with any bytes behind it; cut short anywhere it is a decode error; and it goes into a buffer
exactly if the buffer is long enough, which 128 bytes always are. -/
theorem stored_config_round_trips (c : Config) :
    format.Spelled c.toBlob ∧
    (∀ suffix, decode (c.toBlob ++ suffix) = .ok c) ∧
    (∀ part missing, c.toBlob = part ++ missing → missing ≠ [] →
      decode part = .error (.decode .unexpectedEnd)) ∧
    (∀ capacity blob,
      c.encode capacity = .ok blob ↔ blob = c.toBlob ∧ c.toBlob.length ≤ capacity) ∧
    (∀ capacity error, c.encode capacity = .error error ↔
      error = .encode .bufferFull ∧ capacity < c.toBlob.length) ∧
    c.toBlob.length ≤ 107 ∧ c.encode 128 = .ok c.toBlob := by
  have htakes := c.read_takes
  have hlength := c.length_toBlob_le
  refine ⟨read_follows.spelled htakes, ?_, ?_, ?_, ?_, hlength, ?_⟩
  · intro suffix
    exact decode_eq_ok_iff.mpr ⟨suffix, htakes suffix⟩
  · intro part missing hsplit hmissing
    rw [hsplit] at htakes
    exact decode_eq_error_iff.mpr ⟨_, rfl, read_follows.run_cut htakes hmissing⟩
  · intro capacity blob
    exact encode_eq_ok_iff
  · intro capacity error
    exact encode_eq_error_iff
  · exact encode_eq_ok_iff.mpr ⟨rfl, by omega⟩

/-- The standard configuration takes 35 bytes. With one byte behind them it reads back, and with one
less it does not. -/
theorem stored_config_round_trips_standard :
    standard.toBlob.length = 35 ∧ decode (standard.toBlob ++ [0xFF]) = .ok standard ∧
      decode (standard.toBlob.take 34) = .error (.decode .unexpectedEnd) ∧
      standard.encode 35 = .ok standard.toBlob ∧
      standard.encode 34 = .error (.encode .bufferFull) := by
  have hlength : standard.toBlob.length = 35 := by cbv
  have hmissing : standard.toBlob.drop 34 ≠ [] := by
    rw [Ne, List.drop_eq_nil_iff, hlength]
    decide
  have hsplit : standard.toBlob = standard.toBlob.take 34 ++ standard.toBlob.drop 34 :=
    (List.take_append_drop 34 _).symm
  obtain ⟨-, hwhole, hcut, hfits, hfull, -⟩ := stored_config_round_trips standard
  refine ⟨hlength, hwhole [0xFF], hcut _ _ hsplit hmissing, ?_, ?_⟩
  · exact (hfits 35 _).mpr ⟨rfl, Nat.le_of_eq hlength⟩
  · exact (hfull 34 _).mpr ⟨rfl, by rw [hlength]; decide⟩

end Config

end AirStation
