import NamedSql.Text.RangeTable

/-! # White space

The characters with the property White Space (`isBlank`), as Unicode 17 has them. The zero width
space and the byte order mark are not among them. -/

namespace NamedSql

namespace RangeTable

/-- Code points with the property White Space. -/
def blank : RangeTable where
  ranges :=
    [(0x0009, 0x000D), (0x0020, 0x0020), (0x0085, 0x0085), (0x00A0, 0x00A0), (0x1680, 0x1680),
     (0x2000, 0x200A), (0x2028, 0x2029), (0x202F, 0x202F), (0x205F, 0x205F), (0x3000, 0x3000)]

end RangeTable

/-- The character is white space. -/
def isBlank (c : Char) : Bool := RangeTable.blank.contains c.toNat

end NamedSql
