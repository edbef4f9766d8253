import AirStation.Panel.Canvas
import AirStation.Panel.Font
import AirStation.Panel.Line
import AirStation.Snapshot

/-!
A stack of display lines, drawn from the top down. Each line has its own band of pixel rows, each
character its own cell in it. There is room for eight lines, which is as many bands as the display
has.

What a panel draws is a list of points, computed from its lines without a canvas. A canvas then
lights those that it contains, so drawing cannot fail and cannot go wrong at the edges.
-/

namespace AirStation

/-- Lines of text and the point from which they are drawn downwards. -/
structure Panel where
  origin : Point
  lines : List String

namespace Panel

def maxLines : Nat := 8

def empty (origin : Point) : Panel :=
  ⟨origin, []⟩

/-- Adds a line below the others and says whether there was room for it. -/
def push (p : Panel) (line : String) : Panel × Bool :=
  if p.lines.length < maxLines then ({ p with lines := p.lines ++ [line] }, true) else (p, false)

/-- The seven lines for a snapshot. Temperature and humidity fall back to the BME68x while the
HTU21D has nothing. -/
def linesOf (s : Snapshot) : List String :=
  let temperature := s.htu21d.map (·.temperature) <|> s.bme68x.map (·.temperature)
  let humidity := s.htu21d.map (·.humidity) <|> s.bme68x.map (·.humidity)
  [Line.temperature temperature,
   Line.humidity humidity,
   Line.co2 (s.ccs811.map (·.eco2)),
   Line.tvoc (s.ccs811.map (·.tvoc)),
   Line.pressure (s.bme68x.map (·.pressure)),
   Line.gas (s.bme68x.map (·.gasResistance)),
   Line.airQuality s.airQuality]

def ofSnapshot (s : Snapshot) (origin : Point) : Panel :=
  (linesOf s).foldl (fun p line => (p.push line).1) (empty origin)

/-- The lit pixels of a glyph whose cell starts at `corner`. -/
def glyphPoints (g : Glyph) (corner : Point) : List Point :=
  (List.finRange Glyph.height).flatMap fun row =>
    ((List.finRange Glyph.width).filter (g.lit row)).map fun column =>
      ⟨corner.x + column.val, corner.y + row.val⟩

/-- The lit pixels of a text whose first cell starts at `corner`. -/
def linePoints (text : String) (corner : Point) : List Point :=
  text.toList.zipIdx.flatMap fun (c, i) =>
    glyphPoints (.ofChar c) ⟨corner.x + Glyph.width * i, corner.y⟩

def points (p : Panel) : List Point :=
  p.lines.zipIdx.flatMap fun (line, i) =>
    linePoints line ⟨p.origin.x, p.origin.y + Glyph.height * i⟩

def draw (p : Panel) (c : Canvas) : Canvas :=
  c.lightAll p.points

end Panel

end AirStation
