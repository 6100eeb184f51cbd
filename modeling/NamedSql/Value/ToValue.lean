import NamedSql.Value.Basic

/-! # Things that are values

Numbers, texts, bytes and truth values are values; nothing is NULL; a list of such things is a
list. -/

namespace NamedSql

/-- Things of this type can be given as values. -/
class ToValue (α : Type) where
  /-- The thing as a value. -/
  toValue : α → Value

export ToValue (toValue)

instance : ToValue Bool := ⟨.bool⟩
instance : ToValue Int8 := ⟨fun n => .int n.toInt64⟩
instance : ToValue Int16 := ⟨fun n => .int n.toInt64⟩
instance : ToValue Int32 := ⟨fun n => .int n.toInt64⟩
instance : ToValue Int64 := ⟨.int⟩
instance : ToValue UInt16 := ⟨fun n => .uint n.toUInt64⟩
instance : ToValue UInt32 := ⟨fun n => .uint n.toUInt64⟩
instance : ToValue UInt64 := ⟨.uint⟩
instance : ToValue Binary32 := ⟨fun x => .float x.widen⟩
instance : ToValue Binary64 := ⟨.float⟩
instance : ToValue String := ⟨fun s => .text s.toList⟩
instance : ToValue ByteArray := ⟨fun b => .bytes b.toList⟩

instance {α : Type} [ToValue α] : ToValue (Option α) :=
  ⟨fun
    | none => .null
    | some a => toValue a⟩

instance {α : Type} [ToValue α] : ToValue (List α) := ⟨fun as => .list (as.map toValue)⟩

end NamedSql
