/-!
A fixed font for a small monochrome display: printable ASCII in cells five pixels wide and eight
high. A glyph is one number. Its eight bytes are the rows from top to bottom, and the lower five
bits of a row are its pixels from left to right.

Cells stand side by side without a gap; the glyphs themselves leave room where it is needed. A
character that the font does not have is drawn as a question mark.
-/

namespace AirStation

abbrev Glyph : Type :=
  Nat

namespace Glyph

def width : Nat := 5

def height : Nat := 8

/-- The glyphs from the space to the tilde, in the order of their codes. -/
def table : Vector Glyph 95 :=
  #v[0x0000000000000000, 0x0004040404000400, 0x000a0a0a00000000, 0x0a0a1f0a1f0a0a00,
     0x040e140e050e0400, 0x00080a040a020000, 0x0814140814140a00, 0x0004040400000000,
     0x0004080808080400, 0x0008040404040800, 0x0000120c1e0c1200, 0x000004041f040400,
     0x0000000000060408, 0x000000001e000000, 0x0000000000040e04, 0x0002020408101000,
     0x00040a0a0a0a0400, 0x00040c0404040e00, 0x000c12020c101e00, 0x001e040c02120c00,
     0x00040c141e040400, 0x001e101c02120c00, 0x000c101c12120c00, 0x001e020404080800,
     0x000c120c12120c00, 0x000c12120e020c00, 0x00000c0c000c0c00, 0x0000060600060408,
     0x0002040808040200, 0x0000001e001e0000, 0x0008040202040800, 0x00040a0204000400,
     0x0609131515120806, 0x000c12121e121200, 0x001c121c12121c00, 0x000c121010120c00,
     0x001c121212121c00, 0x001e101c10101e00, 0x001e101c10101000, 0x000c121016120c00,
     0x0012121e12121200, 0x000e040404040e00, 0x000e040404140800, 0x0012141814141200,
     0x0010101010101e00, 0x00121e1e12121200, 0x00121a1e16161200, 0x000c121212120c00,
     0x001c12121c101000, 0x000c12121a160c02, 0x001c12121c121200, 0x000c120804120c00,
     0x000e040404040400, 0x0012121212120c00, 0x00121212120c0c00, 0x001212121e1e1200,
     0x0012120c0c121200, 0x0011110a04040400, 0x001e020408101e00, 0x000e080808080e00,
     0x0010100804020200, 0x000e020202020e00, 0x00040a0000000000, 0x000000000000001e,
     0x0008040000000000, 0x0000000e12120e00, 0x0010101c12121c00, 0x0000000608080600,
     0x0002020e12120e00, 0x0000000c16180c00, 0x00040a081c080800, 0x0000000c120e020c,
     0x0010101c12121200, 0x0004000c04040e00, 0x0002000202020a04, 0x001010121c121200,
     0x000c040404040e00, 0x0000001a15151500, 0x0000001c12121200, 0x0000000c12120c00,
     0x0000001c121c1010, 0x0000000e120e0202, 0x000000141a101000, 0x000000060c020c00,
     0x0008081c080a0400, 0x0000001212120e00, 0x0000000a0a0a0400, 0x0000001115150a00,
     0x000000120c0c1200, 0x00000012120e120c, 0x0000001e04081e00, 0x0608041804080600,
     0x0004040404040400, 0x1804080608041800, 0x000a140000000000]

/-- The glyph of a character. One outside the table is drawn as a question mark. -/
def ofChar (c : Char) : Glyph :=
  table.toList[if c < ' ' then 0x5F else c.toNat - 0x20]?.getD 0x00040a0204000400

/-- Whether a pixel of the glyph is lit. Rows count from the top and columns from the left. -/
def lit (g : Glyph) (row : Fin height) (column : Fin width) : Bool :=
  g.testBit (8 * (7 - row.val) + (4 - column.val))

end Glyph

end AirStation
