import NamedSql.Text.Basic
import NamedSql.Text.Extender
import NamedSql.Text.Ignorable
import NamedSql.Text.Mark
import NamedSql.Text.Unprintable

/-! # Quoted characters and texts

The form in which messages and events show a character or a text: between quotes, with short
escapes for the usual controls, the backslash and the quote itself, and the code point in
hexadecimal for every other character that would not show (`isHidden`). -/

namespace NamedSql.Quoted

/-- The code point in hexadecimal: `\u` and the digits in braces. -/
def codePoint (c : Char) : Text :=
  ['\\', 'u', '\x7b'] ++ Nat.toDigits 16 c.toNat ++ ['\x7d']

/-- The character does not show by itself: it is a mark that joins the character in front of it,
or it is to be ignored, or it has no glyph. -/
def isHidden (c : Char) : Bool := isExtender c && isMark c || isIgnorable c || isUnprintable c

/-- The character as it stands between quotes of the given kind. -/
def escape (quote c : Char) : Text :=
  if c = '\x00' then ['\\', '0']
  else if c = '\t' then ['\\', 't']
  else if c = '\r' then ['\\', 'r']
  else if c = '\n' then ['\\', 'n']
  else if c = '\\' ∨ c = quote then ['\\', c]
  else if isHidden c then codePoint c
  else [c]

/-- A character between single quotes. -/
def char (c : Char) : Text := ['\x27'] ++ escape '\x27' c ++ ['\x27']

/-- A text between double quotes. -/
def text (t : Text) : Text := ['"'] ++ t.flatMap (escape '"') ++ ['"']

end NamedSql.Quoted
