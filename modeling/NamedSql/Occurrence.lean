import NamedSql.Draft
import NamedSql.Plan

/-! # Occurrences: references on the text of the template

The references of a template can be listed and their contexts read on the template's own text,
before anything is expanded (`occurrences`). `Dialect.render` compiles a template by these
occurrences: it walks along them once, copies the text between them and writes an expansion for
each, and never looks at what it has written. -/

namespace NamedSql

/-- A reference on the text of its template. -/
structure Occurrence where
  /-- The text of the template in front of the marker, nearest character first. -/
  behind : Text
  /-- How many of these characters lie in front of the end of the previous reference. -/
  previous : Nat
  /-- The name. -/
  name : Text
  deriving DecidableEq

namespace Occurrence

/-- The occurrences in the rest of a template, behind which the given text lies, and the text after
the last of them. -/
def listFrom (marker : Char) (behind ahead : Text) : List Occurrence × Text :=
  match _h : Reference.first? marker ahead with
  | none => ([], ahead)
  | some r =>
    let here := r.lead.reverse ++ behind
    let later := listFrom marker (r.name.reverse ++ marker :: here) r.tail
    (⟨here, behind.length, r.name⟩ :: later.1, later.2)
termination_by ahead.length
decreasing_by exact Reference.length_tail_lt _h

/-- The context of an occurrence. -/
def context (o : Occurrence) : Context := Context.ofBehind o.behind

/-- The byte at which the marker stands. -/
def start (o : Occurrence) : Nat := o.behind.byteLength

/-- The text between the previous reference and a place behind which the text `front` lies. -/
def gap (o : Occurrence) (front : Text) : Text := (front.take (front.length - o.previous)).reverse

/-- The field of the occurrence reaches into the previous reference, or holds a placeholder. -/
def FieldTaken (o : Occurrence) (front field : Text) : Prop :=
  front.length < o.previous ∨ Expansion.placeholder ∈ field

instance (o : Occurrence) (front field : Text) : Decidable (o.FieldTaken front field) := by
  unfold FieldTaken; infer_instance

/-- What stands for an occurrence in the SQL, with the text in front of it since the
previous reference, and the layout with its placeholders. -/
def expansion (dialect : Dialect) (capacities : Dict Nat) (layout : Layout) (o : Occurrence) :
    Except Error (Text × Layout) :=
  match o.context with
  | .scalar =>
    if capacities.contains o.name then .error (.listRequired o.name)
    else (layout.addScalar o.name).map fun layout => (o.gap o.behind ++ Expansion.single, layout)
  | .inList negated => do
    let capacity ← dialect.capacityOf capacities o.name
    let layout ← layout.addList o.name capacity negated
    return (o.gap o.behind ++ Expansion.group capacity, layout)
  | .likeAny front field negated =>
    if o.FieldTaken front field then .error (.placeholderInField o.name)
    else do
      let capacity ← dialect.capacityOf capacities o.name
      let layout ← layout.addList o.name capacity negated
      return (o.gap front ++ Expansion.alternatives field capacity negated, layout)

end Occurrence

/-- The references of a text, and the text after the last of them. -/
def occurrences (marker : Char) (text : Text) : List Occurrence × Text :=
  Occurrence.listFrom marker [] text

namespace Dialect

/-- The expansions of some occurrences one after the other. -/
def renderAll (dialect : Dialect) (capacities : Dict Nat) :
    Layout → List Occurrence → Except Error (Text × Layout)
  | layout, [] => .ok ([], layout)
  | layout, o :: later => do
    let (sql, layout) ← o.expansion dialect capacities layout
    let (rest, layout) ← dialect.renderAll capacities layout later
    return (sql ++ rest, layout)

/-- Compiles a text by its occurrences. -/
def render (dialect : Dialect) (text : Text) (capacities : Dict Nat) : Except Error Plan := do
  let (found, rest) := occurrences dialect.marker text
  let (sql, layout) ← dialect.renderAll capacities .empty found
  match capacities.names.find? fun name => (layout.param? name).isNone with
  | some name => .error (.listRequired name)
  | none => return ⟨text, sql ++ rest, layout⟩

end Dialect

end NamedSql
