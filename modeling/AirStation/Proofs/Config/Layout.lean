import AirStation.Config.Blob
import AirStation.Proofs.Blob.Format

/-!
The layout of a stored configuration. Each part has its format, a list of fields; its reader follows
the format, takes what the part is written as, and returns nothing that is written in more bytes
than it took.

The three facts are proved for each part from those of its fields, in the order in which the parts
contain one another: a step of the heater profile, the heater, the settings of the BME68x, and the
four parts of a configuration. A field that is added is one more entry in a list and one more step
in each proof.
-/

namespace AirStation

open Blob Reader

namespace Ccs811.DriveMode

theorem enumerates_all : Enumerates all fun mode => mode.code.toNat where
  complete mode := by cases mode <;> rfl
  positions := rfl
  small := by decide

end Ccs811.DriveMode

namespace Bme68x

theorem Oversampling.enumerates_all : Enumerates all fun o => o.code.toNat where
  complete o := by cases o <;> rfl
  positions := rfl
  small := by decide

theorem Filter.enumerates_all : Enumerates all fun filter => filter.code.toNat where
  complete filter := by cases filter <;> rfl
  positions := rfl
  small := by decide

theorem Mode.enumerates_all : Enumerates all Mode.position where
  complete mode := by cases mode <;> rfl
  positions := rfl
  small := by decide

namespace HeaterStep

/-- A temperature and a duration, each a number of sixteen bits. -/
def format : Format :=
  .all [.number .bits16, .number .bits16]

theorem read_follows : read.Follows format := by
  apply follows_uint16.bind
  intro _ _
  apply follows_uint16.bind
  intro _ _
  exact follows_pure _

theorem read_takes (s : HeaterStep) : read.Takes s.toBlob s := by
  apply (takes_uint16 s.temperature).bind
  exact (takes_uint16 s.duration).map _

theorem read_shrinks : read.Shrinks toBlob := by
  apply shrinks_uint16.bind
  intro _ _ htemperature
  apply shrinks_uint16.bind
  intro _ _ hduration
  apply consumes_pure
  simp only [toBlob, List.length_append] at *
  omega

end HeaterStep

namespace Heater

/-- Whether the heater is on, its profile, and the duration that the steps share in parallel
mode. -/
def format : Format :=
  .all [.flag, .sequence HeaterStep.format maxHeaterSteps, .number .bits16]

/-- A profile that was read has at most ten steps, so it can be put into a heater. -/
theorem length_le_of_returns {steps : List HeaterStep}
    (h : (Reader.sequence HeaterStep.read maxHeaterSteps).Returns steps) :
    steps.length ≤ maxHeaterSteps := by
  obtain ⟨bytes, rest, hrun⟩ := h
  obtain ⟨_, -, hlength, -⟩ := consumes_sequence HeaterStep.read_shrinks _ _ _ _ hrun
  exact hlength

theorem read_follows : read.Follows format := by
  apply follows_bool.bind
  intro enabled _
  apply (follows_sequence HeaterStep.read_follows maxHeaterSteps).bind
  intro steps hsteps
  apply follows_uint16.bind
  intro sharedDuration _
  -- The sequence reader has refused a longer profile already.
  rw [dif_pos (length_le_of_returns hsteps)]
  exact follows_pure _

theorem read_takes (h : Heater) : read.Takes h.toBlob h := by
  have hlength : h.steps.length < VarintWidth.bits64.bound :=
    Nat.lt_of_le_of_lt h.length_steps_le (by decide)
  rw [toBlob, List.append_assoc, ← List.append_nil (varint _)]
  apply (takes_bool h.enabled).bind
  apply (takes_sequence HeaterStep.read_takes h.length_steps_le hlength).bind
  apply (takes_uint16 h.sharedDuration).bind
  rw [dif_pos h.length_steps_le]
  exact takes_pure h

theorem read_shrinks : read.Shrinks toBlob := by
  apply shrinks_bool.bind
  intro _ enabled henabled
  apply (consumes_sequence HeaterStep.read_shrinks maxHeaterSteps).bind
  rintro _ steps ⟨hlength, hsteps⟩
  apply shrinks_uint16.bind
  intro _ sharedDuration hsharedDuration
  rw [dif_pos hlength]
  apply consumes_pure
  simp only [toBlob, List.length_append] at *
  omega

end Heater

namespace Settings

/-- Oversampling of temperature, pressure and humidity, the filter, the mode, the heater, and the
ambient temperature in one byte. -/
def format : Format :=
  .all [.position 6, .position 6, .position 6, .position 8, .position 2, Heater.format, .raw 1]

theorem read_follows : read.Follows format := by
  apply (follows_variant Oversampling.all).bind
  intro _ _
  apply (follows_variant Oversampling.all).bind
  intro _ _
  apply (follows_variant Oversampling.all).bind
  intro _ _
  apply (follows_variant Filter.all).bind
  intro _ _
  apply (follows_variant Mode.all).bind
  intro _ _
  apply Heater.read_follows.bind
  intro _ _
  apply follows_int8.bind
  intro _ _
  exact follows_pure _

theorem read_takes (s : Settings) : read.Takes s.toBlob s := by
  simp only [toBlob, List.append_assoc]
  apply (takes_position Oversampling.enumerates_all s.temperature).bind
  apply (takes_position Oversampling.enumerates_all s.pressure).bind
  apply (takes_position Oversampling.enumerates_all s.humidity).bind
  apply (takes_position Filter.enumerates_all s.filter).bind
  apply (takes_position Mode.enumerates_all s.mode).bind
  apply (Heater.read_takes s.heater).bind
  exact (takes_int8 s.ambient).map _

theorem read_shrinks : read.Shrinks toBlob := by
  apply (shrinks_position Oversampling.enumerates_all).bind
  intro _ _ htemperature
  apply (shrinks_position Oversampling.enumerates_all).bind
  intro _ _ hpressure
  apply (shrinks_position Oversampling.enumerates_all).bind
  intro _ _ hhumidity
  apply (shrinks_position Filter.enumerates_all).bind
  intro _ _ hfilter
  apply (shrinks_position Mode.enumerates_all).bind
  intro _ _ hmode
  apply Heater.read_shrinks.bind
  intro _ _ hheater
  apply shrinks_int8.bind
  intro _ _ hambient
  apply consumes_pure
  simp only [toBlob, List.length_append] at *
  omega

end Settings

end Bme68x

namespace Htu21dConfig

def format : Format :=
  .all [.flag, .number .bits32]

theorem read_follows : read.Follows format := by
  apply follows_bool.bind
  intro _ _
  apply follows_uint32.bind
  intro _ _
  exact follows_pure _

theorem read_takes (c : Htu21dConfig) : read.Takes c.toBlob c := by
  apply (takes_bool c.enabled).bind
  exact (takes_uint32 c.intervalMillis).map _

theorem read_shrinks : read.Shrinks toBlob := by
  apply shrinks_bool.bind
  intro _ _ henabled
  apply shrinks_uint32.bind
  intro _ _ hinterval
  apply consumes_pure
  simp only [toBlob, List.length_append] at *
  omega

end Htu21dConfig

namespace Ccs811Config

/-- Whether the sensor is used, its address and interval, the drive mode, and whether it is fed with
the climate. -/
def format : Format :=
  .all [.flag, .raw 1, .number .bits32, .position 5, .flag]

theorem read_follows : read.Follows format := by
  apply follows_bool.bind
  intro _ _
  apply follows_byte.bind
  intro _ _
  apply follows_uint32.bind
  intro _ _
  apply (follows_variant Ccs811.DriveMode.all).bind
  intro _ _
  apply follows_bool.bind
  intro _ _
  exact follows_pure _

theorem read_takes (c : Ccs811Config) : read.Takes c.toBlob c := by
  simp only [toBlob, List.append_assoc]
  apply (takes_bool c.enabled).bind
  apply (takes_byte c.address).bind
  apply (takes_uint32 c.intervalMillis).bind
  apply (takes_position Ccs811.DriveMode.enumerates_all c.mode).bind
  exact (takes_bool c.environmentCompensation).map _

theorem read_shrinks : read.Shrinks toBlob := by
  apply shrinks_bool.bind
  intro _ _ henabled
  apply shrinks_byte.bind
  intro _ _ haddress
  apply shrinks_uint32.bind
  intro _ _ hinterval
  apply (shrinks_position Ccs811.DriveMode.enumerates_all).bind
  intro _ _ hmode
  apply shrinks_bool.bind
  intro _ _ hcompensation
  apply consumes_pure
  simp only [toBlob, List.length_append] at *
  omega

end Ccs811Config

namespace Bme68xConfig

/-- Whether the sensor is used, its address and interval, and its settings. -/
def format : Format :=
  .all [.flag, .raw 1, .number .bits32, Bme68x.Settings.format]

theorem read_follows : read.Follows format := by
  apply follows_bool.bind
  intro _ _
  apply follows_byte.bind
  intro _ _
  apply follows_uint32.bind
  intro _ _
  apply Bme68x.Settings.read_follows.bind
  intro _ _
  exact follows_pure _

theorem read_takes (c : Bme68xConfig) : read.Takes c.toBlob c := by
  simp only [toBlob, List.append_assoc]
  apply (takes_bool c.enabled).bind
  apply (takes_byte c.address).bind
  apply (takes_uint32 c.intervalMillis).bind
  exact (Bme68x.Settings.read_takes c.settings).map _

theorem read_shrinks : read.Shrinks toBlob := by
  apply shrinks_bool.bind
  intro _ _ henabled
  apply shrinks_byte.bind
  intro _ _ haddress
  apply shrinks_uint32.bind
  intro _ _ hinterval
  apply Bme68x.Settings.read_shrinks.bind
  intro _ _ hsettings
  apply consumes_pure
  simp only [toBlob, List.length_append] at *
  omega

end Bme68xConfig

namespace AirQuality.Tuning

/-- The reference humidity as the four bytes of its bits, and the two bounds of the gas scale. -/
def format : Format :=
  .all [.raw 4, .number .bits32, .number .bits32]

theorem read_follows : read.Follows format := by
  apply follows_word32.bind
  intro _ _
  apply follows_uint32.bind
  intro _ _
  apply follows_uint32.bind
  intro _ _
  exact follows_pure _

theorem read_takes (t : Tuning) : read.Takes t.toBlob t := by
  simp only [toBlob, List.append_assoc]
  apply (takes_word32 t.referenceHumidity.bits).bind
  apply (takes_uint32 t.gasLower).bind
  exact (takes_uint32 t.gasUpper).map _

theorem read_shrinks : read.Shrinks toBlob := by
  apply shrinks_word32.bind
  intro _ _ hhumidity
  apply shrinks_uint32.bind
  intro _ _ hlower
  apply shrinks_uint32.bind
  intro _ _ hupper
  apply consumes_pure
  simp only [toBlob, List.length_append] at *
  omega

end AirQuality.Tuning

namespace Config

/-- The three sensors and the tuning, one after another. There is no version and no length. -/
def format : Format :=
  .all [Htu21dConfig.format, Ccs811Config.format, Bme68xConfig.format, AirQuality.Tuning.format]

theorem read_follows : read.Follows format := by
  apply Htu21dConfig.read_follows.bind
  intro _ _
  apply Ccs811Config.read_follows.bind
  intro _ _
  apply Bme68xConfig.read_follows.bind
  intro _ _
  apply AirQuality.Tuning.read_follows.bind
  intro _ _
  exact follows_pure _

theorem read_takes (c : Config) : read.Takes c.toBlob c := by
  simp only [toBlob, List.append_assoc]
  apply c.htu21d.read_takes.bind
  apply c.ccs811.read_takes.bind
  apply c.bme68x.read_takes.bind
  exact c.tuning.read_takes.map _

theorem read_shrinks : read.Shrinks toBlob := by
  apply Htu21dConfig.read_shrinks.bind
  intro _ _ hhtu21d
  apply Ccs811Config.read_shrinks.bind
  intro _ _ hccs811
  apply Bme68xConfig.read_shrinks.bind
  intro _ _ hbme68x
  apply AirQuality.Tuning.read_shrinks.bind
  intro _ _ htuning
  apply consumes_pure
  simp only [toBlob, List.length_append] at *
  omega

end Config

end AirStation
