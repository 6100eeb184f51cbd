import NamedSql.Text.RangeTable

/-! # Connectors

Connector punctuation (`isConnector`), which joins words as the underscore does, and the two join
controls (`isJoinControl`), as Unicode 17 has them. -/

namespace NamedSql

namespace RangeTable

/-- Code points of the general category Connector Punctuation. -/
def connector : RangeTable where
  ranges :=
    [(0x005F, 0x005F), (0x203F, 0x2040), (0x2054, 0x2054), (0xFE33, 0xFE34), (0xFE4D, 0xFE4F),
     (0xFF3F, 0xFF3F)]

/-- Code points with the property Join Control. -/
def joinControl : RangeTable where
  ranges :=
    [(0x200C, 0x200D)]

end RangeTable

/-- The character is connector punctuation. -/
def isConnector (c : Char) : Bool := RangeTable.connector.contains c.toNat

/-- The character is the zero width joiner or non-joiner. -/
def isJoinControl (c : Char) : Bool := RangeTable.joinControl.contains c.toNat

end NamedSql
