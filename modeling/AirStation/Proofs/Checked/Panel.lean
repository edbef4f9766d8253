import AirStation.Panel
import AirStation.Proofs.Checked.Operation

/-!
Drawing a panel with every step of the pen checked. The pen moves down by one band after each line
and right by one cell after each character; it is a pair of signed 32-bit numbers. Where the last
band and the longest line still end on such numbers, the drawing succeeds and lights the points of
the panel.

The pen moves once more after the last character and after the last line, although nothing is drawn
there. So the corner behind the last cell counts as well, and `Drawable` has it.
-/

namespace AirStation

theorem Canvas.lightAll_append (c : Canvas) (first second : List Point) :
    c.lightAll (first ++ second) = (c.lightAll first).lightAll second :=
  List.foldl_append

namespace Panel.Checked

open AirStation.Checked

/-- Draws the characters from the left, with the next cell checked before a glyph is drawn. -/
def drawText (top : Int) : (left : Int) → List Char → Canvas → Checked Canvas
  | _, [], c => .ok c
  | left, char :: rest, c => do
    let next ← int32 (left + Glyph.width)
    drawText top next rest (c.lightAll (glyphPoints (.ofChar char) ⟨left, top⟩))

/-- Draws the lines from the top, with the next band checked after each of them. -/
def drawLines (left : Int) : (top : Int) → List String → Canvas → Checked Canvas
  | _, [], c => .ok c
  | top, line :: rest, c => do
    let c ← drawText top left line.toList c
    let next ← int32 (top + Glyph.height)
    drawLines left next rest c

def draw (p : Panel) (c : Canvas) : Checked Canvas :=
  drawLines p.origin.x p.origin.y p.lines c

/-- The points of characters that begin in cell `place` of a line, for an induction over the
cells. -/
def textPoints (x top : Int) (place : Nat) (chars : List Char) : List Point :=
  (chars.zipIdx place).flatMap fun (char, i) =>
    glyphPoints (.ofChar char) ⟨x + Glyph.width * i, top⟩

/-- The points of lines that begin in band `place`, for an induction over the bands. -/
def bandPoints (x y : Int) (place : Nat) (lines : List String) : List Point :=
  (lines.zipIdx place).flatMap fun (line, i) => linePoints line ⟨x, y + Glyph.height * i⟩

theorem drawText_eq {x : Int} (top : Int) {chars : List Char} (place : Nat)
    (hleft : Single.leastInt32 ≤ x)
    (hright : x + 5 * (place + chars.length : Nat) ≤ Single.greatestInt32) (c : Canvas) :
    drawText top (x + 5 * place) chars c = .ok (c.lightAll (textPoints x top place chars)) := by
  induction chars generalizing place c with
  | nil => rfl
  | cons char rest ih =>
    have hnext : x + 5 * place + Glyph.width = x + 5 * (place + 1 : Nat) := by
      rw [Glyph.width]
      omega
    have hlength : place + (char :: rest).length = place + 1 + rest.length := by
      rw [List.length_cons]
      omega
    rw [hlength] at hright
    have hpen : Single.leastInt32 ≤ x + 5 * (place + 1 : Nat) ∧
        x + 5 * (place + 1 : Nat) ≤ Single.greatestInt32 := by omega
    rw [drawText, hnext, int32_of_mem hpen, ok_bind, ih (place + 1) hright,
      ← Canvas.lightAll_append]
    rfl

theorem drawText_line {x : Int} (top : Int) {line : String}
    (hleft : Single.leastInt32 ≤ x) (hright : x + 105 ≤ Single.greatestInt32)
    (hline : line.toList.length ≤ 21) (c : Canvas) :
    drawText top x line.toList c = .ok (c.lightAll (linePoints line ⟨x, top⟩)) := by
  have htext : drawText top (x + 5 * (0 : Nat)) line.toList c = _ :=
    drawText_eq top 0 hleft (by omega) c
  rwa [Int.natCast_zero, Int.mul_zero, Int.add_zero] at htext

theorem drawLines_eq {x y : Int} {lines : List String} (place : Nat)
    (hleft : Single.leastInt32 ≤ x) (hright : x + 105 ≤ Single.greatestInt32)
    (hlines : ∀ line ∈ lines, line.toList.length ≤ 21) (htop : Single.leastInt32 ≤ y)
    (hbottom : y + 8 * (place + lines.length : Nat) ≤ Single.greatestInt32) (c : Canvas) :
    drawLines x (y + 8 * place) lines c = .ok (c.lightAll (bandPoints x y place lines)) := by
  induction lines generalizing place c with
  | nil => rfl
  | cons line rest ih =>
    obtain ⟨hline, hrest⟩ := List.forall_mem_cons.mp hlines
    have hnext : y + 8 * place + Glyph.height = y + 8 * (place + 1 : Nat) := by
      rw [Glyph.height]
      omega
    have hlength : place + (line :: rest).length = place + 1 + rest.length := by
      rw [List.length_cons]
      omega
    rw [hlength] at hbottom
    have hpen : Single.leastInt32 ≤ y + 8 * (place + 1 : Nat) ∧
        y + 8 * (place + 1 : Nat) ≤ Single.greatestInt32 := by omega
    rw [drawLines, drawText_line _ hleft hright hline, ok_bind, hnext, int32_of_mem hpen, ok_bind,
      ih (place + 1) hrest hbottom, ← Canvas.lightAll_append]
    rfl

/-- Where a drawing begins, with room for eight lines of twenty-one characters on signed numbers. -/
structure Drawable (origin : Point) : Prop where
  left : Single.leastInt32 ≤ origin.x
  right : origin.x + 105 ≤ Single.greatestInt32
  top : Single.leastInt32 ≤ origin.y
  bottom : origin.y + 64 ≤ Single.greatestInt32

/-- From such an origin no step of the pen leaves its numbers, and the drawing is that of the
model. -/
theorem draw_eq {p : Panel} (h : Drawable p.origin) (hcount : p.lines.length ≤ maxLines)
    (hlines : ∀ line ∈ p.lines, line.toList.length ≤ 21) (c : Canvas) :
    draw p c = .ok (p.draw c) := by
  have hbottom : p.origin.y + 8 * (0 + p.lines.length : Nat) ≤ Single.greatestInt32 := by
    have := h.bottom
    unfold maxLines at hcount
    omega
  have hdrawn := drawLines_eq 0 h.left h.right hlines h.top hbottom c
  rw [Int.natCast_zero, Int.mul_zero, Int.add_zero] at hdrawn
  exact hdrawn

end Panel.Checked

end AirStation
