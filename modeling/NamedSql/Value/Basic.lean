import NamedSql.Text.Basic
import NamedSql.Value.Binary64

/-! # Values

The values that parameters take. They compare as their parts do, so a value that holds a NaN does
not equal itself. -/

namespace NamedSql

/-- A value for a parameter. -/
inductive Value where
  /-- The SQL value NULL. -/
  | null
  /-- A truth value. -/
  | bool (value : Bool)
  /-- A signed integer. -/
  | int (value : Int64)
  /-- An unsigned integer. -/
  | uint (value : UInt64)
  /-- A floating-point number. -/
  | float (value : Binary64)
  /-- A text. -/
  | text (value : Text)
  /-- A string of bytes. -/
  | bytes (value : List UInt8)
  /-- The elements for a list. -/
  | list (items : List Value)

namespace Value

/-- The value is a list. -/
def isList : Value → Bool
  | list _ => true
  | _ => false

mutual

/-- Equality of values. -/
def equal : Value → Value → Bool
  | null, null => true
  | bool a, bool b => a == b
  | int a, int b => a == b
  | uint a, uint b => a == b
  | float a, float b => a.equal b
  | text a, text b => a == b
  | bytes a, bytes b => a == b
  | list a, list b => equalItems a b
  | _, _ => false

/-- Equality of lists of values, element by element. -/
def equalItems : List Value → List Value → Bool
  | [], [] => true
  | a :: as, b :: bs => equal a b && equalItems as bs
  | _, _ => false

end

end Value

end NamedSql
