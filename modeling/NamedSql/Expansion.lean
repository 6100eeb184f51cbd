import NamedSql.Text.Basic

/-! # Expansions

The SQL that stands for a reference: one placeholder for a scalar, a group of placeholders for a
list after IN, and one comparison for each pattern of a list after LIKE_ANY. -/

namespace NamedSql.Expansion

/-- The placeholder of one value. -/
def placeholder : Char := '?'

/-- The expansion of a scalar. -/
def single : Text := [placeholder]

/-- The expansion of a list after IN: `(?, ?, ?)`. -/
def group (capacity : Nat) : Text :=
  ['('] ++ ", ".toList.intercalate (List.replicate capacity single) ++ [')']

/-- The comparison of the field with one pattern. -/
def comparison (field : Text) (negated : Bool) : Text :=
  field ++ (if negated then " NOT LIKE ".toList else " LIKE ".toList) ++ single

/-- The expansion of a list after LIKE_ANY: `a LIKE ? OR a LIKE ?`, and with NOT
`a NOT LIKE ? AND a NOT LIKE ?`. -/
def alternatives (field : Text) (capacity : Nat) (negated : Bool) : Text :=
  (if negated then " AND ".toList else " OR ".toList).intercalate
    (List.replicate capacity (comparison field negated))

end NamedSql.Expansion
