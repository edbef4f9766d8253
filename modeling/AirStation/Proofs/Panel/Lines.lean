import AirStation.Panel.Line
import AirStation.Proofs.Single.Decimal

/-!
What a display line keeps of its text. The pieces that are kept are the longest run from the front
that has room, so a line never ends inside a piece and never goes on behind one that was left out.
Whole numbers and air qualities always fit, measured numbers as long as they have at most fourteen
digits in front of the point (`lines_keep_longest_run`).

The pieces are those that the formatting writes one at a time. A number in single precision can have
up to 39 digits before its point, which no line has room for; what is lost then is the end of the
line, the unit first.
-/

namespace AirStation.Line

/-- The kept pieces are a front part that has room, and every front part that has room is within
them. -/
structure LongestFit (room : Nat) (pieces kept : List String) : Prop where
  front : kept <+: pieces
  fits : (String.join kept).utf8ByteSize ≤ room
  longest : ∀ run, run <+: pieces → (String.join run).utf8ByteSize ≤ room → run <+: kept

theorem longestFit_fitting (room : Nat) (pieces : List String) :
    LongestFit room pieces (fitting room pieces) := by
  induction pieces generalizing room with
  | nil => exact ⟨List.prefix_rfl, Nat.zero_le _, fun _ h _ => h⟩
  | cons piece rest ih =>
    rw [fitting]
    split
    · next hpiece =>
      obtain ⟨hfront, hfits, hlongest⟩ := ih (room - piece.utf8ByteSize)
      refine ⟨List.cons_prefix_cons.mpr ⟨rfl, hfront⟩, ?_, ?_⟩
      · rw [String.join_cons, String.utf8ByteSize_append]
        omega
      · intro run hrun hsize
        cases run with
        | nil => exact List.nil_prefix
        | cons first more =>
          obtain ⟨rfl, hmore⟩ := List.cons_prefix_cons.mp hrun
          rw [String.join_cons, String.utf8ByteSize_append] at hsize
          exact List.cons_prefix_cons.mpr ⟨rfl, hlongest more hmore (by omega)⟩
    · next hpiece =>
      refine ⟨List.nil_prefix, Nat.zero_le _, ?_⟩
      intro run hrun hsize
      cases run with
      | nil => exact List.nil_prefix
      | cons first more =>
        obtain ⟨rfl, -⟩ := List.cons_prefix_cons.mp hrun
        rw [String.join_cons, String.utf8ByteSize_append] at hsize
        omega

theorem fitting_eq_self {room : Nat} {pieces : List String}
    (h : (String.join pieces).utf8ByteSize ≤ room) : fitting room pieces = pieces := by
  have hfit := longestFit_fitting room pieces
  exact hfit.front.eq_of_length_le (hfit.longest pieces List.prefix_rfl h).length_le

theorem ofPieces_eq_join {pieces : List String}
    (h : (String.join pieces).utf8ByteSize ≤ capacity) : ofPieces pieces = String.join pieces := by
  rw [ofPieces, fitting_eq_self h]

/-- What a line shows, each with its reading or with nothing to show. -/
inductive Quantity where
  | temperature (celsius : Option Float32)
  | humidity (percent : Option Float32)
  | co2 (ppm : Option UInt16)
  | tvoc (ppb : Option UInt16)
  | pressure (pascals : Option Float32)
  | gas (ohms : Option UInt32)
  | airQuality (quality : Option AirQuality)

namespace Quantity

def line : Quantity → String
  | .temperature celsius => Line.temperature celsius
  | .humidity percent => Line.humidity percent
  | .co2 ppm => Line.co2 ppm
  | .tvoc ppb => Line.tvoc ppb
  | .pressure pascals => Line.pressure pascals
  | .gas ohms => Line.gas ohms
  | .airQuality quality => Line.airQuality quality

/-- The pieces of text that the line is put together from, in the order in which they are
written. -/
def pieces : Quantity → List String
  | .temperature celsius => temperaturePieces celsius
  | .humidity percent => humidityPieces percent
  | .co2 ppm => co2Pieces ppm
  | .tvoc ppb => tvocPieces ppb
  | .pressure pascals => pressurePieces pascals
  | .gas ohms => gasPieces ohms
  | .airQuality quality => airQualityPieces quality

/-- The text of a quantity without a limit to its length, written out in one go. -/
def text : Quantity → String
  | .temperature (some celsius) => "T:" ++ Single.fixed 1 celsius ++ " C"
  | .temperature none => "T:--.- C"
  | .humidity (some percent) => "H:" ++ Single.fixed 1 percent ++ " %"
  | .humidity none => "H:--.- %"
  | .co2 (some ppm) => "CO2:" ++ number ppm.toNat ++ "ppm"
  | .co2 none => "CO2:---ppm"
  | .tvoc (some ppb) => "TVOC:" ++ number ppb.toNat ++ "ppb"
  | .tvoc none => "TVOC:--ppb"
  | .pressure (some pascals) => "P:" ++ Single.fixed 0 (pascals / 100) ++ " hPa"
  | .pressure none => "P:---- hPa"
  | .gas (some ohms) => "G:" ++ number ohms.toNat ++ " ohm"
  | .gas none => "G:------ ohm"
  | .airQuality (some q) => "IAQ:" ++ number q.index.toNat ++ " " ++ q.category.shortLabel
  | .airQuality none => "IAQ:--"

/-- A measured number is shown with at most fourteen digits in front of the point, or is no finite
number. Whole numbers and air qualities satisfy this as they are. -/
def Brief : Quantity → Prop
  | .temperature x | .humidity x => ∀ value, x = some value → Single.Brief 14 1 value
  | .pressure x => ∀ value, x = some value →
    Single.NotFinite value ∨ Single.Brief 14 0 (value / 100)
  | .co2 _ | .tvoc _ | .gas _ | .airQuality _ => True

theorem line_eq (q : Quantity) : q.line = ofPieces q.pieces := by
  cases q <;> rfl

theorem text_eq (q : Quantity) : q.text = String.join q.pieces := by
  cases q with
  | temperature x | humidity x | pressure x =>
    cases x <;> simp [text, pieces, temperaturePieces, humidityPieces, pressurePieces,
      Single.fixed, String.append_assoc]
  | co2 x | tvoc x | gas x | airQuality x =>
    cases x <;> simp [text, pieces, co2Pieces, tvocPieces, gasPieces, airQualityPieces,
      String.append_assoc]

theorem size_number_uint16_le (word : UInt16) : (number word.toNat).utf8ByteSize ≤ 5 :=
  (Single.size_repr_le_iff (by decide)).mpr (Nat.lt_trans word.toNat_lt (by decide))

theorem size_number_uint32_le (word : UInt32) : (number word.toNat).utf8ByteSize ≤ 10 :=
  (Single.size_repr_le_iff (by decide)).mpr (Nat.lt_trans word.toNat_lt (by decide))

theorem size_shortLabel_le (category : AirQuality.Category) :
    category.shortLabel.utf8ByteSize ≤ 11 := by
  cases category <;> decide

theorem size_framed_le {label body unit : String} {room : Nat} (hbody : body.utf8ByteSize ≤ room)
    (hroom : label.utf8ByteSize + room + unit.utf8ByteSize ≤ capacity) :
    (label ++ body ++ unit).utf8ByteSize ≤ capacity := by
  rw [String.utf8ByteSize_append, String.utf8ByteSize_append]
  omega

theorem size_text_le (q : Quantity) (h : q.Brief) : q.text.utf8ByteSize ≤ capacity := by
  cases q with
  | temperature x | humidity x =>
    cases x with
    | none => decide
    | some value =>
      have hsize := Single.size_fixed_le (by decide) (h value rfl)
      exact size_framed_le hsize (by decide)
  | pressure x =>
    cases x with
    | none => decide
    | some value =>
      have hbrief : Single.Brief 14 0 (value / 100) := by
        rcases h value rfl with hvalue | hvalue
        · exact .inl hvalue.hundredth
        · exact hvalue
      exact size_framed_le (Single.size_fixed_le (by decide) hbrief) (by decide)
  | co2 x | tvoc x =>
    cases x with
    | none => decide
    | some word => exact size_framed_le (size_number_uint16_le word) (by decide)
  | gas x =>
    cases x with
    | none => decide
    | some ohms => exact size_framed_le (size_number_uint32_le ohms) (by decide)
  | airQuality x =>
    cases x with
    | none => decide
    | some quality =>
      have hnumber := size_number_uint16_le quality.index
      have hlabel := size_shortLabel_le quality.category
      simp only [text, String.utf8ByteSize_append]
      show 4 + _ + 1 + _ ≤ 21
      omega

end Quantity

/-- Every line has at most 21 bytes and shows the longest run of its pieces from the front that has
room. It is the full text of a whole number or an air quality in any case, and of a measured number
with at most fourteen digits in front of the point, an infinity and a NaN. The longest label beside
an index of five digits uses all the room there is. -/
theorem lines_keep_longest_run :
    (∀ q : Quantity, q.line.utf8ByteSize ≤ 21 ∧
      (∃ kept, LongestFit 21 q.pieces kept ∧ q.line = String.join kept) ∧
      (q.Brief → q.line = q.text)) ∧
    ∀ quality : AirQuality, 10000 ≤ quality.index.toNat → quality.category = .veryUnhealthy →
      (Line.airQuality (some quality)).utf8ByteSize = 21 := by
  have hfull : ∀ q : Quantity, q.Brief → q.line = q.text := by
    intro q hbrief
    have hsize := q.size_text_le hbrief
    rw [q.text_eq] at hsize ⊢
    rw [q.line_eq, ofPieces_eq_join hsize]
  constructor
  · intro q
    have hfit := longestFit_fitting capacity q.pieces
    have hline : q.line = String.join (fitting capacity q.pieces) := q.line_eq
    exact ⟨hline ▸ hfit.fits, ⟨_, hfit, hline⟩, hfull q⟩
  · intro quality hindex hcategory
    have hline : Line.airQuality (some quality) = Quantity.text (.airQuality (some quality)) :=
      hfull (.airQuality (some quality)) trivial
    have hfour : ¬ (number quality.index.toNat).utf8ByteSize ≤ 4 :=
      fun h => absurd ((Single.size_repr_le_iff (by decide)).mp h) (Nat.not_lt.mpr hindex)
    have hfive := Quantity.size_number_uint16_le quality.index
    have hdigits : (number quality.index.toNat).utf8ByteSize = 5 := by omega
    rw [hline]
    simp only [Quantity.text, String.utf8ByteSize_append, hdigits, hcategory]
    decide

/-- Fourteen digits and a sign fill the line, and a fifteenth digit costs the unit. -/
theorem lines_keep_longest_run_negative :
    let q : Quantity := .temperature (some (-50000000000000))
    q.Brief ∧ q.line = "T:-50000000188416.0 C" ∧
      Line.temperature (some (-1000000000000000)) = "T:-999999986991104.0" := by
  intro q
  have hbrief : q.Brief := by
    rintro _ ⟨rfl⟩
    exact .inr (by decide +kernel)
  have hline := (lines_keep_longest_run.1 q).2.2 hbrief
  have htext : q.text = "T:-50000000188416.0 C" := by decide +kernel
  exact ⟨hbrief, hline.trans htext, by decide +kernel⟩

end AirStation.Line
