import AirStation.Proofs.Checked.Panel
import AirStation.Proofs.Panel.Text
import Mathlib.Data.List.FinRange
import Mathlib.Data.List.Induction

/-!
What a drawn panel looks like, pixel by pixel. A pixel of the canvas is lit exactly when it was lit
before or one of the lines has ink there: its row lies in the band of the line, its column in the
cell of a character, and the glyph of that character has this pixel (`panel_paints_its_bands`). The
points to light are a union over lines, characters and glyph pixels, and a canvas only knows which
points were lit, so neither the order nor what falls outside plays a part.
-/

namespace AirStation

namespace Canvas

theorem lit_inside (c : Canvas) {row column : Nat} (hrow : row < canvasHeight)
    (hcolumn : column < canvasWidth) :
    c.lit ⟨column, row⟩ = (c.rows[row])[column] := by
  have hinside : contains ⟨column, row⟩ :=
    ⟨⟨Int.natCast_nonneg _, hcolumn⟩, Int.natCast_nonneg _, hrow⟩
  rw [lit, dif_pos hinside]
  rfl

theorem ext_lit {c c' : Canvas} (h : ∀ q, c.lit q = c'.lit q) : c = c' := by
  obtain ⟨rows⟩ := c
  obtain ⟨rows'⟩ := c'
  congr 1
  apply Vector.ext
  intro row hrow
  apply Vector.ext
  intro column hcolumn
  have hpixel := h ⟨column, row⟩
  rwa [lit_inside _ hrow hcolumn, lit_inside _ hrow hcolumn] at hpixel

/-- What counts of a list of points is which points of the canvas are among them. Their order does
not, nor how often they come. -/
theorem lightAll_congr (c : Canvas) {points points' : List Point}
    (h : ∀ q, contains q → (q ∈ points ↔ q ∈ points')) :
    c.lightAll points = c.lightAll points' := by
  apply ext_lit
  intro q
  rw [lit_lightAll, lit_lightAll, decide_eq_decide.mpr (and_congr_right (h q))]

end Canvas

namespace Panel

theorem mem_glyphPoints {g : Glyph} {corner q : Point} :
    q ∈ glyphPoints g corner ↔
      ∃ row column, g.lit row column = true ∧ q.y = corner.y + row.val ∧
        q.x = corner.x + column.val := by
  obtain ⟨x, y⟩ := q
  simp only [glyphPoints, List.mem_flatMap, List.mem_map, List.mem_filter, List.mem_finRange,
    true_and, Point.mk.injEq]
  constructor
  · rintro ⟨row, column, hlit, rfl, rfl⟩
    exact ⟨row, column, hlit, rfl, rfl⟩
  · rintro ⟨row, column, hlit, rfl, rfl⟩
    exact ⟨row, column, hlit, rfl, rfl⟩

/-- A point of a line is a lit point of the glyph of some character, in the cell of that
character. -/
theorem mem_linePoints {text : String} {corner q : Point} :
    q ∈ linePoints text corner ↔
      ∃ (j : Nat) (char : Char), text.toList[j]? = some char ∧
        ∃ row column, (Glyph.ofChar char).lit row column = true ∧ q.y = corner.y + row.val ∧
          q.x = corner.x + 5 * j + column.val := by
  simp only [linePoints, List.mem_flatMap, Prod.exists, List.mk_mem_zipIdx_iff_getElem?,
    mem_glyphPoints]
  exact exists_comm

/-- A line of the panel has ink at the point: the point lies in the line's band and in the cell of
one of its characters, and there the character's glyph has a pixel. -/
def Inked (p : Panel) (q : Point) : Prop :=
  ∃ (i : Nat) (line : String), p.lines[i]? = some line ∧
    ∃ (j : Nat) (char : Char), line.toList[j]? = some char ∧
      ∃ row column, (Glyph.ofChar char).lit row column = true ∧
        q.y = p.origin.y + 8 * i + row.val ∧ q.x = p.origin.x + 5 * j + column.val

theorem mem_points {p : Panel} {q : Point} : q ∈ p.points ↔ p.Inked q := by
  simp only [points, List.mem_flatMap, Prod.exists, List.mk_mem_zipIdx_iff_getElem?,
    mem_linePoints]
  exact exists_comm

theorem lit_draw (p : Panel) (c : Canvas) (q : Point) :
    (p.draw c).lit q = true ↔ c.lit q = true ∨ Canvas.contains q ∧ p.Inked q := by
  rw [draw, Canvas.lit_lightAll, Bool.or_eq_true, decide_eq_true_eq, mem_points]

theorem draw_clipped (p : Panel) (c : Canvas) :
    p.draw c = c.lightAll (p.points.filter fun q => decide (Canvas.contains q)) := by
  apply Canvas.lightAll_congr
  intro q hq
  simp [hq]

def drawBand (origin : Point) (c : Canvas) (band : String × Nat) : Canvas :=
  c.lightAll (linePoints band.1 ⟨origin.x, origin.y + Glyph.height * band.2⟩)

/-- Lines may be drawn in any order, as long as each goes into its own band. -/
theorem draw_of_perm {p : Panel} {order : List (String × Nat)} (h : order.Perm p.lines.zipIdx)
    (c : Canvas) : order.foldl (drawBand p.origin) c = p.draw c := by
  have hfold : order.foldl (drawBand p.origin) c =
      c.lightAll (order.flatMap fun band =>
        linePoints band.1 ⟨p.origin.x, p.origin.y + Glyph.height * band.2⟩) :=
    List.foldl_flatMap.symm
  rw [hfold, draw, points]
  apply Canvas.lightAll_congr
  intro q _
  exact (h.flatMap_right _).mem_iff

/-- A panel after any number of pushes, each of which is refused or adds a line. -/
def stacked (origin : Point) (quantities : List Line.Quantity) : Panel :=
  quantities.foldl (fun p q => (p.push q.line).1) (empty origin)

theorem stacked_concat (origin : Point) (quantities : List Line.Quantity) (q : Line.Quantity) :
    stacked origin (quantities ++ [q]) = ((stacked origin quantities).push q.line).1 := by
  rw [stacked, List.foldl_concat, ← stacked]

theorem push_of_lt {p : Panel} (h : p.lines.length < maxLines) (line : String) :
    p.push line = ({ p with lines := p.lines ++ [line] }, true) :=
  if_pos h

theorem push_of_full {p : Panel} (h : maxLines ≤ p.lines.length) (line : String) :
    p.push line = (p, false) :=
  if_neg (Nat.not_lt.mpr h)

/-- Pushes behind the eighth are refused and change nothing. -/
theorem stacked_eq (origin : Point) (quantities : List Line.Quantity) :
    stacked origin quantities = ⟨origin, (quantities.map (·.line)).take maxLines⟩ := by
  induction quantities using List.reverseRecOn with
  | nil => rfl
  | append_singleton quantities q ih =>
    have hlength : (quantities.map (·.line)).length = quantities.length := List.length_map _
    rw [stacked_concat, ih, List.map_append]
    generalize quantities.map (·.line) = lines at hlength ⊢
    rcases Nat.lt_or_ge lines.length maxLines with hroom | hfull
    · have hall : (lines ++ [q.line]).length ≤ maxLines := by
        rw [List.length_append]
        exact hroom
      rw [List.take_of_length_le (Nat.le_of_lt hroom), push_of_lt hroom]
      exact congrArg _ (List.take_of_length_le hall).symm
    · have hlimit : maxLines ≤ (lines.take maxLines).length := by
        rw [List.length_take, Nat.min_eq_left hfull]
      rw [push_of_full hlimit]
      exact congrArg _ (List.take_append_of_le_length hfull).symm

/-- What the lines of a snapshot show. The HTU21D comes first for temperature and humidity, and the
BME68x steps in for it. -/
def quantitiesOf (s : Snapshot) : List Line.Quantity :=
  [.temperature (s.htu21d.map (·.temperature) <|> s.bme68x.map (·.temperature)),
   .humidity (s.htu21d.map (·.humidity) <|> s.bme68x.map (·.humidity)),
   .co2 (s.ccs811.map (·.eco2)),
   .tvoc (s.ccs811.map (·.tvoc)),
   .pressure (s.bme68x.map (·.pressure)),
   .gas (s.bme68x.map (·.gasResistance)),
   .airQuality s.airQuality]

theorem map_line_quantitiesOf (s : Snapshot) : (quantitiesOf s).map (·.line) = linesOf s := by
  simp only [quantitiesOf, linesOf, List.map_cons, List.map_nil, Line.Quantity.line]

/-- So a snapshot's panel is one of those that the pushes make, and there is room for its lines. -/
theorem ofSnapshot_eq_stacked (s : Snapshot) (origin : Point) :
    ofSnapshot s origin = stacked origin (quantitiesOf s) ∧
      (ofSnapshot s origin).lines = (quantitiesOf s).map (·.line) := by
  have hstacked : ofSnapshot s origin = stacked origin (quantitiesOf s) := by
    rw [ofSnapshot, ← map_line_quantitiesOf, List.foldl_map, stacked]
  have hroom : ((quantitiesOf s).map (·.line)).length ≤ maxLines := by
    rw [List.length_map]
    show 7 ≤ 8
    decide
  refine ⟨hstacked, ?_⟩
  rw [hstacked, stacked_eq, List.take_of_length_le hroom]

theorem length_stacked_le (origin : Point) (quantities : List Line.Quantity) :
    (stacked origin quantities).lines.length ≤ maxLines := by
  rw [stacked_eq, List.length_take]
  exact Nat.min_le_left _ _

theorem exists_of_mem_stacked {origin : Point} {quantities : List Line.Quantity} {line : String}
    (h : line ∈ (stacked origin quantities).lines) : ∃ q : Line.Quantity, q.line = line := by
  rw [stacked_eq] at h
  obtain ⟨q, -, hq⟩ := List.mem_map.mp (List.mem_of_mem_take h)
  exact ⟨q, hq⟩

/-- Eight bands of eight rows and twenty-one cells of five columns are within the canvas, so a panel
at the upper left corner loses nothing. -/
theorem Inked.contains {p : Panel} (horigin : p.origin = ⟨0, 0⟩)
    (hcount : p.lines.length ≤ maxLines) (hlines : ∀ line ∈ p.lines, line.toList.length ≤ 21)
    {q : Point} (h : p.Inked q) : Canvas.contains q := by
  obtain ⟨i, line, hline, j, char, hchar, row, column, -, hy, hx⟩ := h
  have hi : i < 8 := Nat.lt_of_lt_of_le (List.getElem?_eq_some_iff.mp hline).1 hcount
  have hj : j < 21 := Nat.lt_of_lt_of_le (List.getElem?_eq_some_iff.mp hchar).1
    (hlines line (List.mem_of_getElem? hline))
  have hrow : row.val < 8 := row.isLt
  have hcolumn : column.val < 5 := column.isLt
  rw [horigin] at hy hx
  dsimp only at hy hx
  unfold Canvas.contains canvasWidth canvasHeight
  omega

/-- A panel holds the first eight lines that were pushed, and refuses the others. Its characters
all have glyphs of their own. Where the far corner of the largest panel is still on signed 32-bit
numbers, drawing it succeeds. Then a pixel of the canvas is lit exactly when it was before or a line
has ink there; what falls outside is dropped; the lines may be drawn in any order; and at the upper
left corner nothing falls outside. The panel of a snapshot is one of these panels, with a line for
each of its quantities. -/
theorem panel_paints_its_bands (origin : Point) (horigin : Checked.Drawable origin)
    (quantities : List Line.Quantity) :
    let p := stacked origin quantities
    (p.lines = (quantities.map (·.line)).take 8 ∧
      ∀ line, 8 ≤ quantities.length → p.push line = (p, false)) ∧
    (∀ line ∈ p.lines, ∀ char ∈ line.toList,
      Printable char ∧ Glyph.table.toList[char.toNat - 0x20]? = some (.ofChar char)) ∧
    (∀ c : Canvas, Checked.draw p c = .ok (p.draw c)) ∧
    (∀ (c : Canvas) (q : Point),
      (p.draw c).lit q = true ↔ c.lit q = true ∨ Canvas.contains q ∧ p.Inked q) ∧
    (∀ c : Canvas, p.draw c = c.lightAll (p.points.filter fun q => decide (Canvas.contains q))) ∧
    (∀ (c : Canvas) (order : List (String × Nat)), order.Perm p.lines.zipIdx →
      order.foldl (drawBand origin) c = p.draw c) ∧
    (origin = ⟨0, 0⟩ → ∀ q, p.Inked q → Canvas.contains q) ∧
    (∀ s : Snapshot, ofSnapshot s origin = stacked origin (quantitiesOf s) ∧
      (ofSnapshot s origin).lines = (quantitiesOf s).map (·.line)) := by
  intro p
  have hp : p = ⟨origin, (quantities.map (·.line)).take 8⟩ := stacked_eq origin quantities
  have hcount : p.lines.length ≤ maxLines := length_stacked_le origin quantities
  have hlines : ∀ line ∈ p.lines, line.toList.length ≤ 21 := by
    intro line hline
    obtain ⟨q, rfl⟩ := exists_of_mem_stacked hline
    exact q.length_line_le
  have hroot : p.origin = origin := by rw [hp]
  refine ⟨⟨by rw [hp], ?_⟩, ?_, ?_, p.lit_draw, p.draw_clipped, ?_, ?_,
    fun s => ofSnapshot_eq_stacked s origin⟩
  · intro line hfull
    apply push_of_full
    rw [hp, List.length_take, List.length_map]
    exact Nat.le_min.mpr ⟨Nat.le_refl _, hfull⟩
  · intro line hline char hchar
    obtain ⟨q, rfl⟩ := exists_of_mem_stacked hline
    have hprintable : Printable char := q.printable_line char hchar
    exact ⟨hprintable, Glyph.ofChar_printable hprintable⟩
  · exact Checked.draw_eq (hroot ▸ horigin) hcount hlines
  · intro c order horder
    rw [← hroot]
    exact draw_of_perm horder c
  · intro hzero q hq
    exact hq.contains (hroot.trans hzero) hcount hlines

/-- Nine pushes of one line, partly to the left of the canvas and above it. -/
theorem panel_paints_its_bands_clipped :
    let p := stacked ⟨-3, -4⟩ (List.replicate 9 (.co2 (some 400)))
    Checked.Drawable ⟨-3, -4⟩ ∧ p.lines = List.replicate 8 "CO2:400ppm" ∧
      Checked.draw p .dark = .ok (p.draw .dark) ∧ (p.draw .dark).lit ⟨0, 1⟩ = true := by
  intro p
  have horigin : Checked.Drawable ⟨-3, -4⟩ := ⟨by decide, by decide, by decide, by decide⟩
  have htext : (Line.Quantity.co2 (some 400)).line = "CO2:400ppm" := by decide +kernel
  obtain ⟨⟨hfront, -⟩, -, hchecked, hlit, -⟩ :=
    panel_paints_its_bands ⟨-3, -4⟩ horigin (List.replicate 9 (.co2 (some 400)))
  have hlines : p.lines = List.replicate 8 "CO2:400ppm" := by
    rw [hfront, List.map_replicate, List.take_replicate, htext]
    rfl
  have horigin' : p.origin = ⟨-3, -4⟩ := congrArg Panel.origin (stacked_eq _ _)
  -- The first line's 'C', in row 5 and column 3 of its cell.
  have hfirst : p.lines[0]? = some "CO2:400ppm" := by
    rw [hlines]
    rfl
  have hglyph : (Glyph.ofChar 'C').lit ⟨5, by decide⟩ ⟨3, by decide⟩ = true := by decide +kernel
  have hinked : p.Inked ⟨0, 1⟩ :=
    ⟨0, _, hfirst, 0, 'C', by decide, ⟨5, by decide⟩, ⟨3, by decide⟩, hglyph,
      by rw [horigin']; rfl, by rw [horigin']; rfl⟩
  exact ⟨horigin, hlines, hchecked .dark, (hlit .dark ⟨0, 1⟩).mpr (.inr ⟨by decide, hinked⟩)⟩

end Panel

end AirStation
