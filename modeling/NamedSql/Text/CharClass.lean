import NamedSql.Text.Alphabetic
import NamedSql.Text.Blank
import NamedSql.Text.Connector
import NamedSql.Text.Mark
import NamedSql.Text.Number
import NamedSql.Text.Recent

/-! # Character classes of the template language

A parameter name is a run of word characters (`isWord`); a marker must not be alphanumeric
(`isAlphanumeric`). The two classes overlap without one containing the other: a combining mark or
the undertie `U+203F` is a word character that is not alphanumeric, and the superscript two is
alphanumeric without being a word character. Names keep to the characters of Unicode 16, while a
marker is judged by Unicode 17: a letter new in Unicode 17 is refused as a marker and ends a
name. -/

namespace NamedSql

/-- The character may stand in a parameter name: it is a letter, mark, decimal digit, connector or
join control of Unicode 16. -/
def isWord (c : Char) : Bool :=
  (isAlphabetic c || isMark c || isDecimalDigit c || isConnector c || isJoinControl c) &&
    !isRecent c

/-- The character is a letter or a number in the wide sense of Unicode. -/
def isAlphanumeric (c : Char) : Bool := isAlphabetic c || isNumber c

/-- The undertie may stand in a name, and the superscript two is a number. -/
example : isWord '\u203f' = true ∧ isAlphanumeric '\u203f' = false ∧
    isAlphanumeric '\u00b2' = true ∧ isWord '\u00b2' = false := by
  decide +kernel

/-- A letter new in Unicode 17. -/
example : isAlphanumeric '\u088f' = true ∧ isWord '\u088f' = false := by decide +kernel

end NamedSql
