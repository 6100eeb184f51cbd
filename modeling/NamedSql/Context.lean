import NamedSql.Text.CharClass
import NamedSql.Text.Quoted

/-! # Contexts of references

How a reference is expanded depends on the words in front of it. After `field IN` or
`field NOT IN` it stands for a list of values, after `field LIKE_ANY` or `field NOT LIKE_ANY` for a
list of patterns, and anywhere else for a single value. A word is a run of characters other than
white space and `(`; the keywords are read without regard to the case of ASCII letters.

The words are read backward from the cursor, so the functions here take the text behind the cursor,
nearest character first. -/

namespace NamedSql

/-- The keywords that make a reference stand for a list. -/
inductive Keyword where
  /-- The keyword IN. -/
  | inList
  /-- The keyword LIKE_ANY. -/
  | likeAny
  deriving DecidableEq

/-- What a reference stands for. -/
inductive Context where
  /-- A single value. -/
  | scalar
  /-- A list of values that a field is looked up in. -/
  | inList (negated : Bool)
  /-- A list of patterns for the field; `front` is the text in front of the field, nearest
  character first. -/
  | likeAny (front field : Text) (negated : Bool)
  deriving DecidableEq

/-- The token is the given upper-case word, in whatever ASCII case. -/
def spells (word token : Text) : Bool := token.map Char.toUpper == word

/-- The keyword that a token spells. -/
def Keyword.ofToken? (token : Text) : Option Keyword :=
  if spells "IN".toList token then some .inList
  else if spells "LIKE_ANY".toList token then some .likeAny
  else none

namespace Context

/-- The character belongs to a word. -/
def inWord (c : Char) : Bool := !(isBlank c || c == '(')

/-- The last word of the text behind the cursor, white space after it skipped, and the text behind
that word. The word is empty at the start of the text and after a parenthesis. -/
def lastWord (behind : Text) : Text × Text :=
  let trimmed := behind.dropWhile isBlank
  ((trimmed.takeWhile inWord).reverse, trimmed.dropWhile inWord)

/-- Behind the cursor lie white space, the last word, and what is behind the word. -/
theorem eq_of_lastWord (behind : Text) :
    behind =
      behind.takeWhile isBlank ++ ((lastWord behind).1.reverse ++ (lastWord behind).2) := by
  simp [lastWord]

theorem inWord_of_mem_lastWord {behind : Text} {c : Char} (h : c ∈ (lastWord behind).1) :
    inWord c = true := by
  simp only [lastWord, List.mem_reverse] at h
  exact List.all_eq_true.mp List.all_takeWhile c h

/-- The context that a keyword makes after the given field. -/
def ofKeyword (front field : Text) (negated : Bool) : Keyword → Context
  | .inList => .inList negated
  | .likeAny => .likeAny front field negated

/-- The context of a reference with the given text behind it: the keyword, NOT if it is there, and
the field are read backward, and without a field the reference is a scalar. -/
def ofBehind (behind : Text) : Context :=
  let (word, beforeKeyword) := lastWord behind
  match Keyword.ofToken? word with
  | none => .scalar
  | some keyword =>
    let (field, front) := lastWord beforeKeyword
    let negated := spells "NOT".toList field
    let (field, front) := if negated then lastWord front else (field, front)
    if field = [] then .scalar else ofKeyword front field negated keyword

/-- The context of a reference at byte `offset` of a text; there is none inside a character or
beyond the end. -/
def at? (text : Text) (offset : Nat) : Option Context := (text.behind? offset).map ofBehind

private def flag (b : Bool) : Text := if b then "true".toList else "false".toList

/-- The context as events show it. -/
def describe : Context → Text
  | scalar => "Scalar".toList
  | inList negated => "In \x7b negated: ".toList ++ flag negated ++ " \x7d".toList
  | likeAny front field negated =>
    "LikeAny \x7b field_start: ".toList ++ Text.decimal front.byteLength ++
      ", field: ".toList ++ Quoted.text field ++
      ", negated: ".toList ++ flag negated ++ " \x7d".toList

end Context

end NamedSql
