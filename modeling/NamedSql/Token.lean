import NamedSql.Context

/-! # Words at byte offsets

A context is read from the characters behind a reference, and each word leaves the characters behind
it for the next one. Where a text is known by byte offsets the same words are found one after the
other in the whole text: each scan goes backward from the byte at which the word found before it
starts (`Context.read?`). -/

namespace NamedSql

/-- A word of a text. -/
structure Token where
  /-- The byte at which it starts. -/
  start : Nat
  /-- Its characters. -/
  word : Text
  deriving DecidableEq

/-- The last word in front of byte `stop` of a text, white space after it skipped; there is none if
the byte lies inside a character or beyond the end. -/
def Token.before? (text : Text) (stop : Nat) : Option Token :=
  (text.behind? stop).map fun behind =>
    ⟨(Context.lastWord behind).2.byteLength, (Context.lastWord behind).1⟩

/-- The context of a reference at byte `offset` of a text, word by word: the keyword, NOT if it is
there, and the field. -/
def Context.read? (text : Text) (offset : Nat) : Option Context := do
  let keyword ← Token.before? text offset
  match Keyword.ofToken? keyword.word with
  | none => return .scalar
  | some spelled =>
    let last ← Token.before? text keyword.start
    let negated := spells "NOT".toList last.word
    let field ← if negated then Token.before? text last.start else some last
    let front ← text.behind? field.start
    return if field.word = [] then .scalar else ofKeyword front field.word negated spelled

end NamedSql
