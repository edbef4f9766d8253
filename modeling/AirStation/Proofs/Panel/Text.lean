import AirStation.Panel.Font
import AirStation.Proofs.Panel.Lines

/-!
The characters of a display line. Every piece is made of digits, signs and literal text, so a line
holds only characters with a glyph of their own, and no more of them than it has bytes
(`Line.Quantity.printable_line`, `Line.Quantity.length_line_le`).

A character without a glyph would be drawn as a question mark, and a character of several bytes
would count more than once against the room of its line. Neither can occur, whatever the readings
are.
-/

namespace AirStation

/-- The characters of the font, from the space to the tilde, as their codes go. -/
def Printable (c : Char) : Prop :=
  0x20 ≤ c.toNat ∧ c.toNat ≤ 0x7E

instance (c : Char) : Decidable (Printable c) :=
  inferInstanceAs (Decidable (_ ∧ _))

/-- All characters of the text are printable, so it needs no question marks. -/
def PrintableText (s : String) : Prop :=
  ∀ c ∈ s.toList, Printable c

instance (s : String) : Decidable (PrintableText s) :=
  List.decidableBAll Printable s.toList

/-- A printable character is drawn with the glyph that stands at its place in the table. -/
theorem Glyph.ofChar_printable {c : Char} (h : Printable c) :
    table.toList[c.toNat - 0x20]? = some (ofChar c) := by
  have hspace : ¬ c < ' ' := fun hlt => by
    have : c.toNat < 0x20 := hlt
    have := h.1
    omega
  have hplace : c.toNat - 0x20 < table.toList.length := by
    have := h.2
    rw [Vector.length_toList]
    omega
  rw [ofChar, if_neg hspace, List.getElem?_eq_getElem hplace, Option.getD_some]

theorem printable_of_isDigit {c : Char} (h : c.isDigit) : Printable c := by
  obtain ⟨hlow, hhigh⟩ := Char.isDigit_iff_toNat.mp h
  exact ⟨Nat.le_trans (by decide) hlow, Nat.le_trans hhigh (by decide)⟩

theorem PrintableText.append {s t : String} (hs : PrintableText s) (ht : PrintableText t) :
    PrintableText (s ++ t) := by
  intro c hc
  rw [String.toList_append] at hc
  exact (List.mem_append.mp hc).elim (hs c) (ht c)

theorem PrintableText.join {pieces : List String} (h : ∀ piece ∈ pieces, PrintableText piece) :
    PrintableText (String.join pieces) := by
  intro c hc
  rw [String.toList_join] at hc
  obtain ⟨piece, hpiece, hmem⟩ := List.mem_flatMap.mp hc
  exact h piece hpiece c hmem

theorem printableText_repr (n : Nat) : PrintableText (Nat.repr n) := fun _ hc =>
  printable_of_isDigit (Single.isDigit_of_mem_repr hc)

namespace Single

theorem printableText_padded (width value : Nat) : PrintableText (padded width value) := by
  refine PrintableText.append (fun c hc => ?_) (printableText_repr value)
  rw [String.toList_ofList] at hc
  rw [List.eq_of_mem_replicate hc]
  decide

theorem printableText_sign (negative : Bool) : ∀ piece ∈ sign negative, PrintableText piece := by
  cases negative <;> decide

theorem printableText_pieces (places : Nat) (x : Float32) :
    ∀ piece ∈ pieces places x, PrintableText piece := by
  cases hparts : parts x.toBits with
  | nan =>
    have htext : pieces places x = ["NaN"] := by rw [pieces, hparts]
    rw [htext]
    decide
  | infinite negative =>
    have htext : pieces places x = sign negative ++ ["inf"] := by rw [pieces, hparts]
    rw [htext]
    exact List.forall_mem_append.mpr ⟨printableText_sign negative, by decide⟩
  | finite negative significand shift =>
    rw [pieces_finite hparts]
    refine List.forall_mem_append.mpr ⟨printableText_sign negative, ?_⟩
    refine List.forall_mem_cons.mpr ⟨printableText_repr _, ?_⟩
    unfold fractionPieces
    split
    · exact List.forall_mem_nil _
    · exact List.forall_mem_cons.mpr
        ⟨by decide, List.forall_mem_singleton.mpr (printableText_padded _ _)⟩

end Single

namespace Line.Quantity

theorem printableText_shortLabel (category : AirQuality.Category) :
    PrintableText category.shortLabel := by
  cases category <;> decide

/-- A reading stands between a label and a unit, and all three are printable. -/
theorem printableText_framed {label unit : String} (body : List String)
    (hlabel : PrintableText label) (hbody : ∀ piece ∈ body, PrintableText piece)
    (hunit : PrintableText unit) :
    ∀ piece ∈ [label] ++ body ++ [unit], PrintableText piece := by
  simpa [or_imp, forall_and] using ⟨hlabel, hbody, hunit⟩

theorem printableText_pieces (q : Quantity) : ∀ piece ∈ q.pieces, PrintableText piece := by
  cases q with
  | temperature x | humidity x | pressure x =>
    cases x with
    | none => decide
    | some value =>
      exact printableText_framed _ (by decide) (Single.printableText_pieces _ _) (by decide)
  | co2 x | tvoc x | gas x =>
    cases x with
    | none => decide
    | some word =>
      exact printableText_framed [number _] (by decide)
        (List.forall_mem_singleton.mpr (printableText_repr _)) (by decide)
  | airQuality x =>
    cases x with
    | none => decide
    | some quality =>
      exact printableText_framed [number _, " "] (by decide)
        (List.forall_mem_cons.mpr ⟨printableText_repr _, by decide⟩)
        (printableText_shortLabel quality.category)

theorem printable_line (q : Quantity) : PrintableText q.line := by
  rw [q.line_eq, ofPieces]
  apply PrintableText.join
  intro piece hpiece
  have hfront := (longestFit_fitting capacity q.pieces).front
  exact q.printableText_pieces piece (hfront.subset hpiece)

theorem length_toList_le_size (s : String) : s.toList.length ≤ s.utf8ByteSize := by
  rw [← s.ofList_toList, String.toList_ofList]
  induction s.toList with
  | nil => exact Nat.zero_le _
  | cons c rest ih =>
    have hone := c.utf8Size_pos
    rw [String.ofList_cons, String.utf8ByteSize_append, String.utf8ByteSize_singleton,
      List.length_cons]
    omega

theorem length_line_le (q : Quantity) : q.line.toList.length ≤ 21 := by
  refine Nat.le_trans (length_toList_le_size q.line) ?_
  rw [q.line_eq]
  exact (longestFit_fitting capacity q.pieces).fits

end Line.Quantity

end AirStation
