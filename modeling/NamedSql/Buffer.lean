import NamedSql.Draft

/-! # Buffers: a text rewritten in place

A draft keeps finished SQL and the rest of the template apart. A buffer holds both as one text, with
the cursor as a byte offset, and a step finds its way by offsets alone: it scans the text from the
cursor on, reads the context at the offset of a marker, and replaces the bytes from one offset to
another. Any of this can miss: an offset may lie beyond the end of the text or inside a character,
and a range may end in front of its start. A step that misses has slipped (`Outcome.slipped`). -/

namespace NamedSql

namespace Text

/-- Byte `n` of the text does not lie inside a character, and not beyond the end. -/
def IsBoundary (t : Text) (n : Nat) : Prop := ∃ front rest, t = front ++ rest ∧ front.byteLength = n

/-- The text with other text in place of the bytes from `start` to `stop`, if both offsets are
boundaries and in this order. -/
def replace? (t : Text) (start stop : Nat) (new : Text) : Option Text :=
  match t.behind? start, t.behind? stop with
  | some front, some _ =>
    if start ≤ stop then some (front.reverse ++ (new ++ t.dropBytes stop)) else none
  | _, _ => none

end Text

/-- Adds the placeholders of one more reference. -/
def Layout.register (layout : Layout) (name : Text) (negated : Bool) : Kind → Except Error Layout
  | .scalar => layout.addScalar name
  | .list capacity => layout.addList name capacity negated

/-- What is done to the text for a reference, and what the reference stands for. -/
structure Edit where
  /-- The byte from which on text is replaced, up to the end of the reference. -/
  start : Nat
  /-- The text that is written. -/
  expansion : Text
  /-- What the reference stands for. -/
  kind : Kind
  /-- It stands after NOT. -/
  negated : Bool
  deriving DecidableEq

/-- The edit for a reference in the given context. A field must not begin in front of the cursor. -/
def Dialect.edit (dialect : Dialect) (capacities : Dict Nat) (cursor : Nat)
    (span : Reference.Span) : Context → Except Error Edit
  | .scalar =>
    if capacities.contains span.name then .error (.listRequired span.name)
    else .ok ⟨span.start, Expansion.single, .scalar, false⟩
  | .inList negated =>
    (dialect.capacityOf capacities span.name).map fun capacity =>
      ⟨span.start, Expansion.group capacity, .list capacity, negated⟩
  | .likeAny front field negated =>
    if front.byteLength < cursor ∨ Expansion.placeholder ∈ field then
      .error (.placeholderInField span.name)
    else
      (dialect.capacityOf capacities span.name).map fun capacity =>
        ⟨front.byteLength, Expansion.alternatives field capacity negated, .list capacity, negated⟩

/-- A text that is rewritten in place. -/
structure Buffer where
  /-- Finished SQL, and behind it the rest of the template. -/
  text : Text
  /-- The byte at which the rest of the template begins. -/
  cursor : Nat
  /-- The placeholders so far. -/
  layout : Layout
  deriving DecidableEq

namespace Buffer

/-- The buffer before the first step. -/
def ofText (text : Text) : Buffer := ⟨text, 0, .empty⟩

/-- What a step comes to. -/
inductive Outcome where
  /-- No reference is left. -/
  | done
  /-- A reference was expanded. -/
  | next (buffer : Buffer)
  /-- A reference is refused. -/
  | failed (e : Error)
  /-- An offset is no boundary of the text, or offsets are not in order. -/
  | slipped
  deriving DecidableEq

/-- The outcome of a step that has not slipped. -/
def Outcome.ofExcept : Except Error Buffer → Outcome
  | .error e => .failed e
  | .ok buffer => .next buffer

/-- Carries out the edit for a reference: the text is replaced and its placeholders are added. The
cursor comes to stand behind what is written. -/
def apply (buffer : Buffer) (span : Reference.Span) (edit : Edit) : Outcome :=
  match buffer.text.replace? edit.start span.stop edit.expansion with
  | none => .slipped
  | some text =>
    .ofExcept ((buffer.layout.register span.name edit.negated edit.kind).map fun layout =>
      ⟨text, edit.start + edit.expansion.byteLength, layout⟩)

/-- One step: the first reference from the cursor on is expanded. -/
def step (dialect : Dialect) (capacities : Dict Nat) (buffer : Buffer) : Outcome :=
  match Reference.spans? dialect.marker buffer.text buffer.cursor with
  | none => .slipped
  | some [] => .done
  | some (span :: _) =>
    match Context.at? buffer.text span.start with
    | none => .slipped
    | some context =>
      match dialect.edit capacities buffer.cursor span context with
      | .error e => .failed e
      | .ok edit => buffer.apply span edit

/-- So many steps that expand a reference lead from one buffer to the other. -/
inductive Reaches (dialect : Dialect) (capacities : Dict Nat) (first : Buffer) : Nat → Buffer → Prop
  | refl : Reaches dialect capacities first 0 first
  | step {n : Nat} {mid next : Buffer} (hmid : Reaches dialect capacities first n mid)
      (h : mid.step dialect capacities = .next next) :
      Reaches dialect capacities first (n + 1) next

end Buffer

end NamedSql
