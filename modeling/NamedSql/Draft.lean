import NamedSql.Context
import NamedSql.Dict
import NamedSql.Expansion
import NamedSql.Layout
import NamedSql.Reference
import NamedSql.Settings

/-! # Drafts: a template on its way to SQL

A draft is a text with a cursor in it: behind the cursor lies finished SQL, ahead of it the rest of
the template, untouched. A step finds the next reference ahead, reads its context from the text
behind it, and puts the expansion in its place and the cursor after it, so that finished text is
never scanned for references again. Only the expansion after LIKE_ANY takes back text in front of
the reference, the field that it repeats; if the field reaches behind the cursor or holds a
placeholder the step fails.

Every step shortens the text ahead (`length_ahead_lt_of_step?`), so the steps end although the text
behind may grow by any amount. -/

namespace NamedSql

/-- A text that is being expanded. -/
structure Draft where
  /-- The finished text behind the cursor, nearest character first. -/
  behind : Text
  /-- The rest of the template. -/
  ahead : Text
  /-- The placeholders so far. -/
  layout : Layout
  deriving DecidableEq

/-- The draft before the first step. -/
def Draft.ofText (text : Text) : Draft := ⟨[], text, .empty⟩

/-- The whole text of a draft. -/
def Draft.text (draft : Draft) : Text := draft.behind.reverse ++ draft.ahead

/-- A reference as a step found it. -/
structure Visit where
  /-- The name. -/
  name : Text
  /-- Where it stands. -/
  context : Context
  /-- The byte offset of the marker in the text of the draft. -/
  offset : Nat
  deriving DecidableEq

namespace Dialect

/-- The capacity of a list: its own if it has one, else that of the dialect, and never zero. -/
def capacityOf (dialect : Dialect) (capacities : Dict Nat) (name : Text) : Except Error Nat :=
  match capacities.get? name with
  | none => .ok dialect.capacity
  | some 0 => .error (.zeroCapacity name)
  | some (n + 1) => .ok (n + 1)

/-- Expands a reference in the given context. `behind` is the text behind the marker, nearest
character first; its last `finished` characters are finished SQL, the others untouched template
text. The result is the text behind the cursor after the expansion, and the layout with the new
placeholders. -/
def expand (dialect : Dialect) (capacities : Dict Nat) (finished : Nat) (behind : Text)
    (layout : Layout) (name : Text) : Context → Except Error (Text × Layout)
  | .scalar =>
    if capacities.contains name then .error (.listRequired name)
    else do
      let layout ← layout.addScalar name
      return (Expansion.single.reverse ++ behind, layout)
  | .inList negated => do
    let capacity ← dialect.capacityOf capacities name
    let layout ← layout.addList name capacity negated
    return ((Expansion.group capacity).reverse ++ behind, layout)
  | .likeAny front field negated =>
    if front.length < finished ∨ Expansion.placeholder ∈ field then
      .error (.placeholderInField name)
    else do
      let capacity ← dialect.capacityOf capacities name
      let layout ← layout.addList name capacity negated
      return ((Expansion.alternatives field capacity negated).reverse ++ front, layout)

/-- One step: the reference that it visits, and the draft after its expansion. There is no step
when no reference is left. -/
def step? (dialect : Dialect) (capacities : Dict Nat) (draft : Draft) :
    Option (Visit × Except Error Draft) :=
  (Reference.first? dialect.marker draft.ahead).map fun reference =>
    let behind := reference.lead.reverse ++ draft.behind
    let context := Context.ofBehind behind
    (⟨reference.name, context, behind.byteLength⟩,
      (dialect.expand capacities draft.behind.length behind draft.layout reference.name context).map
        fun (behind, layout) => ⟨behind, reference.tail, layout⟩)

theorem length_ahead_lt_of_step? {dialect : Dialect} {capacities : Dict Nat}
    {draft next : Draft} {visit : Visit}
    (h : dialect.step? capacities draft = some (visit, .ok next)) :
    next.ahead.length < draft.ahead.length := by
  obtain ⟨reference, href, heq⟩ := Option.map_eq_some_iff.mp h
  obtain ⟨-, hnext⟩ := Prod.mk.inj heq
  have hlt := Reference.length_tail_lt href
  revert hnext
  cases dialect.expand capacities draft.behind.length _ draft.layout reference.name _ with
  | error e => intro hnext; cases hnext
  | ok result => intro hnext; cases hnext; exact hlt

/-- All steps: the references visited, and the last draft or the error that stopped the steps. -/
def run (dialect : Dialect) (capacities : Dict Nat) (draft : Draft) :
    List Visit × Except Error Draft :=
  match _h : dialect.step? capacities draft with
  | none => ([], .ok draft)
  | some (visit, .error e) => ([visit], .error e)
  | some (visit, .ok next) =>
    let rest := dialect.run capacities next
    (visit :: rest.1, rest.2)
termination_by draft.ahead.length
decreasing_by exact length_ahead_lt_of_step? _h

section

variable {dialect : Dialect} {capacities : Dict Nat} {draft next : Draft} {visit : Visit}

theorem run_of_step?_eq_none (h : dialect.step? capacities draft = none) :
    dialect.run capacities draft = ([], .ok draft) := by
  rw [run]
  split <;> simp_all

theorem run_of_step?_eq_error {e : Error}
    (h : dialect.step? capacities draft = some (visit, .error e)) :
    dialect.run capacities draft = ([visit], .error e) := by
  rw [run]
  split <;> simp_all

theorem run_of_step?_eq_ok (h : dialect.step? capacities draft = some (visit, .ok next)) :
    dialect.run capacities draft =
      (visit :: (dialect.run capacities next).1, (dialect.run capacities next).2) := by
  rw [run]
  split <;> simp_all

end

end Dialect

end NamedSql
