import NamedSql.OnceCell
import NamedSql.Template

/-! # Lazy plans

A template that is compiled when its plan is first asked for. A compilation that fails is not
remembered, so it is tried again the next time. -/

namespace NamedSql

/-- A template with room for its plan. -/
structure Lazy where
  /-- The template. -/
  template : Template
  /-- The plan, once it is made. -/
  cell : OnceCell Plan

namespace Lazy

/-- A template that is not compiled yet. -/
def ofTemplate (template : Template) : Lazy := ⟨template, .empty⟩

/-- The plan is made. -/
def isCompiled (self : Lazy) : Bool := self.cell.isFull

/-- The plan, made now if it has to be. -/
def get (self : Lazy) : Except Error Plan × Lazy :=
  let (answer, cell) := self.cell.get self.template.compile
  (answer, { self with cell })

/-- The events of asking for the plan. -/
def events (self : Lazy) : List Event := if self.isCompiled then [] else self.template.events

end Lazy

end NamedSql
