/-!
A monochrome canvas of the size of the display. Pixels are lit one by one; what lies outside is
dropped, and nothing is ever cleared (`lit_light`, `lit_lightAll`).

A point may lie anywhere, also to the left of the canvas or above it, so its coordinates are signed.
A canvas can be shown as text, with two rows of pixels in each line.
-/

namespace AirStation

/-- Column and row, counted from the upper left. A point need not be on the canvas. -/
structure Point where
  x : Int
  y : Int
deriving DecidableEq, Repr

def canvasWidth : Nat := 128

def canvasHeight : Nat := 64

/-- The pixels of the display, row by row, each of them lit or dark. -/
structure Canvas where
  rows : Vector (Vector Bool canvasWidth) canvasHeight
deriving DecidableEq

namespace Canvas

def dark : Canvas :=
  ⟨Vector.replicate canvasHeight (Vector.replicate canvasWidth false)⟩

def contains (p : Point) : Prop :=
  (0 ≤ p.x ∧ p.x.toNat < canvasWidth) ∧ 0 ≤ p.y ∧ p.y.toNat < canvasHeight

instance (p : Point) : Decidable (contains p) :=
  inferInstanceAs (Decidable (_ ∧ _))

def lit (c : Canvas) (p : Point) : Bool :=
  if h : contains p then (c.rows.get ⟨p.y.toNat, h.2.2⟩).get ⟨p.x.toNat, h.1.2⟩ else false

/-- Lights one pixel, or none if the point is outside. -/
def light (c : Canvas) (p : Point) : Canvas :=
  if h : contains p then
    let row := c.rows.get ⟨p.y.toNat, h.2.2⟩
    ⟨c.rows.set p.y.toNat (row.set p.x.toNat true h.1.2) h.2.2⟩
  else c

def lightAll (c : Canvas) (points : List Point) : Canvas :=
  points.foldl light c

theorem get_set {α : Type} {n : Nat} (v : Vector α n) (i : Nat) (hi : i < n) (a : α)
    (j : Fin n) : (v.set i a hi).get j = if i = j.val then a else v.get j :=
  Vector.getElem_set hi j.isLt

theorem lit_light (c : Canvas) (p q : Point) :
    (c.light p).lit q = (c.lit q || decide (contains p ∧ p = q)) := by
  by_cases hp : contains p
  · by_cases hq : contains q
    · have hx : p.x.toNat = q.x.toNat ↔ p.x = q.x := by
        have := hp.1.1
        have := hq.1.1
        omega
      have hy : p.y.toNat = q.y.toNat ↔ p.y = q.y := by
        have := hp.2.1
        have := hq.2.1
        omega
      simp only [lit, light, dif_pos hp, dif_pos hq, get_set, hy]
      by_cases hRow : p.y = q.y
      · have hEq : p = q ↔ p.x = q.x := by
          cases p
          cases q
          simp_all
        simp [hRow, get_set, hx, hp, hEq, Bool.or_comm]
      · have hEq : ¬ p = q := fun h => hRow (h ▸ rfl)
        simp [hRow, hEq]
    · have hEq : ¬ p = q := fun h => hq (h ▸ hp)
      simp [lit, hq, hEq]
  · simp [light, hp]

/-- Only the set of points matters, neither their order nor how often one occurs. -/
theorem lit_lightAll (c : Canvas) (points : List Point) (q : Point) :
    (c.lightAll points).lit q = (c.lit q || decide (contains q ∧ q ∈ points)) := by
  induction points generalizing c with
  | nil => simp [lightAll]
  | cons p rest ih =>
    rw [lightAll, List.foldl_cons, ← lightAll, ih, lit_light]
    grind

/-- A character for two pixels, one above the other, so that a line of text has the proportions of
the pixels. -/
def halfBlock : Bool → Bool → Char
  | true, true => '█'
  | true, false => '▀'
  | false, true => '▄'
  | false, false => ' '

/-- The canvas as text, two rows of pixels to a line. -/
def halfBlocks (c : Canvas) : List String :=
  (List.range (canvasHeight / 2)).map fun (line : Nat) =>
    String.ofList ((List.range canvasWidth).map fun (column : Nat) =>
      halfBlock (c.lit ⟨column, 2 * line⟩) (c.lit ⟨column, 2 * line + 1⟩))

end Canvas

end AirStation
