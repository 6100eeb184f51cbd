import NamedSql.Binding

/-! # Statements as the database receives them

A statement is SQL with one cell for each placeholder: a column type, a null flag, and the bytes of
the value. Integers and floating-point numbers take eight bytes, the least significant first; texts
in UTF-8 and byte strings follow their length, which takes one byte below 251, and otherwise a byte
that says how many bytes it takes. -/

namespace NamedSql

/-- The type under which a value is sent. -/
inductive ColumnType where
  /-- Text, and NULL. -/
  | varString
  /-- A truth value. -/
  | tinyUnsigned
  /-- A signed integer. -/
  | longLong
  /-- An unsigned integer. -/
  | longLongUnsigned
  /-- A floating-point number. -/
  | double
  /-- A string of bytes. -/
  | blob
  deriving DecidableEq

/-- The name of a column type. -/
def ColumnType.describe : ColumnType → Text
  | varString => "VarString".toList
  | tinyUnsigned => "Tiny unsigned".toList
  | longLong => "LongLong".toList
  | longLongUnsigned => "LongLong unsigned".toList
  | double => "Double".toList
  | blob => "Blob".toList

namespace Wire

/-- The lowest `width` bytes of a number, the least significant first. -/
def littleEndian : Nat → Nat → List UInt8
  | 0, _ => []
  | width + 1, n => UInt8.ofNat n :: littleEndian width (n / 256)

/-- The length of a string of bytes. -/
def length (n : Nat) : List UInt8 :=
  if n < 251 then [UInt8.ofNat n]
  else if n < 0x10000 then 0xFC :: littleEndian 2 n
  else if n < 0x1000000 then 0xFD :: littleEndian 3 n
  else 0xFE :: littleEndian 8 n

/-- Bytes after their length. -/
def counted (bytes : List UInt8) : List UInt8 := length bytes.length ++ bytes

/-- A text in UTF-8. -/
def utf8 (text : Text) : List UInt8 := text.flatMap String.utf8EncodeChar

end Wire

/-- One argument of a statement. -/
structure Cell where
  /-- The type. -/
  type : ColumnType
  /-- The value is NULL. -/
  isNull : Bool
  /-- The bytes of the value. -/
  bytes : List UInt8
  deriving DecidableEq

namespace Cell

/-- The cell of NULL. -/
def null : Cell := ⟨.varString, true, []⟩

/-- The cell of a value. A list has none of its own; binding has taken lists apart. -/
def ofValue : Value → Cell
  | .null => null
  | .list _ => null
  | .bool b => ⟨.tinyUnsigned, false, [if b then 1 else 0]⟩
  | .int n => ⟨.longLong, false, Wire.littleEndian 8 n.toUInt64.toNat⟩
  | .uint n => ⟨.longLongUnsigned, false, Wire.littleEndian 8 n.toNat⟩
  | .float x => ⟨.double, false, Wire.littleEndian 8 x.bits.toNat⟩
  | .text t => ⟨.varString, false, Wire.counted (Wire.utf8 t)⟩
  | .bytes b => ⟨.blob, false, Wire.counted b⟩

end Cell

/-- What is sent to the database. -/
structure Statement where
  /-- The SQL. -/
  sql : Text
  /-- The arguments. -/
  cells : List Cell
  deriving DecidableEq

namespace Statement

/-- The statement for SQL with its arguments. -/
def ofArguments (sql : Text) (arguments : Arguments) : Statement :=
  ⟨sql, arguments.values.map Cell.ofValue⟩

/-- The bytes of all values, one after the other. -/
def bytes (statement : Statement) : List UInt8 := statement.cells.flatMap (·.bytes)

end Statement

end NamedSql
