import AirStation.Proofs.Config.RoundTrip

/-!
Decoding bytes of any origin. What is no configuration is refused with the first flaw of its format;
what is one can be written back in place, in no more bytes, and keeps its meaning
(`decode_normalises`).

Nothing is assumed about the bytes. They may come from an older layout, from memory that was never
written, or from a writer that pads its numbers. All that is used is that the reader of a
configuration follows its format and takes no fewer bytes than it would write.
-/

namespace AirStation.Config

open Blob

/-- Writing back what was read never takes more room than there was. -/
theorem length_toBlob_le_of_takes {used : List UInt8} {c : Config} (h : read.Takes used c) :
    c.toBlob.length ≤ used.length := by
  obtain ⟨count, hcount, hle⟩ := read_shrinks _ _ _ (h [])
  rw [List.append_nil] at hcount
  exact Nat.le_trans hle (Nat.le_of_eq hcount.symm)

/-- For any bytes: they are a configuration exactly if they start with a spelling of the format, and
the error is a decode error, of the flaw that comes first in the order of the fields. The heater
profile of a configuration has at most ten steps. Only the spelling in front decides on it, the
blob of the configuration is not longer than that spelling, goes into its place, and reads back as
the same configuration. -/
theorem decode_normalises (bytes : List UInt8) :
    ((∃ c, decode bytes = .ok c) ↔ ∃ used rest, bytes = used ++ rest ∧ format.Spelled used) ∧
    (∀ error, decode bytes = .error error ↔
      ∃ cause, error = .decode cause ∧ format.Flawed bytes cause) ∧
    ∀ c, decode bytes = .ok c → c.bme68x.settings.heater.steps.length ≤ 10 ∧
      ∃ used rest, bytes = used ++ rest ∧ format.Spelled used ∧
        (∀ other, decode (used ++ other) = .ok c) ∧ c.toBlob.length ≤ used.length ∧
        c.encode used.length = .ok c.toBlob ∧ decode c.toBlob = .ok c := by
  refine ⟨⟨?_, ?_⟩, ?_, ?_⟩
  · rintro ⟨c, hc⟩
    obtain ⟨rest, hrun⟩ := decode_eq_ok_iff.mp hc
    obtain ⟨used, hsplit, hused⟩ := read_follows.sound _ _ _ hrun
    exact ⟨used, rest, hsplit, hused⟩
  · rintro ⟨used, rest, rfl, hused⟩
    obtain ⟨c, hc⟩ := read_follows.complete used hused
    exact ⟨c, decode_eq_ok_iff.mpr ⟨rest, hc rest⟩⟩
  · intro error
    simp only [decode_eq_error_iff, read_follows.flawed]
  · intro c hc
    obtain ⟨rest, hrun⟩ := decode_eq_ok_iff.mp hc
    obtain ⟨used, hsplit, hused, htakes⟩ := read_follows.takes hrun
    have hlength := length_toBlob_le_of_takes htakes
    refine ⟨c.bme68x.settings.heater.length_steps_le, used, rest, hsplit, hused, ?_, hlength, ?_,
      ?_⟩
    · intro other
      exact decode_eq_ok_iff.mpr ⟨other, htakes other⟩
    · exact encode_eq_ok_iff.mpr ⟨rfl, hlength⟩
    · have hblob := c.read_takes []
      rw [List.append_nil] at hblob
      exact decode_eq_ok_iff.mpr ⟨[], hblob⟩

/-- The first interval is spelled in three bytes where two are enough. The configuration is the
standard one all the same, and its blob is shorter. -/
theorem decode_normalises_padded :
    let padded : List UInt8 := [1, 232, 135, 0, 1, 90, 232, 7, 1, 1, 1, 118, 184, 23, 4, 3, 2, 0, 0,
      1, 1, 192, 2, 100, 140, 1, 25, 0, 0, 32, 66, 136, 39, 208, 134, 3]
    decode padded = .ok standard ∧ standard.toBlob.length ≤ padded.length := by
  intro padded
  have hdecode : decode padded = .ok standard := by rfl
  obtain ⟨-, used, rest, hsplit, -, -, hlength, -⟩ := (decode_normalises padded).2.2 _ hdecode
  have hused : used.length ≤ padded.length := by
    rw [hsplit, List.length_append]
    exact Nat.le_add_right _ _
  exact ⟨hdecode, Nat.le_trans hlength hused⟩

end AirStation.Config
