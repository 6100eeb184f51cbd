import NamedSql.Statement
import NamedSql.Template

/-! # Prepared queries

A plan with arguments can be run any number of times. What a run answers depends on the way it is
run and on the database, of which this library knows two behaviours: it answers without rows, or it
refuses. -/

namespace NamedSql

/-- A plan with its arguments. -/
structure Prepared where
  /-- The plan. -/
  plan : Plan
  /-- A value for each placeholder. -/
  arguments : Arguments

/-- The ways to run a query. -/
inductive Mode where
  /-- For its effect. -/
  | execute
  /-- For all rows. -/
  | fetchAll
  /-- For one row, which must be there. -/
  | fetchOne
  /-- For one row, if there is one. -/
  | fetchOptional
  deriving DecidableEq

/-- What a run answers. -/
inductive Answer where
  /-- The effect: rows changed, and the last identifier made. -/
  | effect (rowsAffected lastInsertId : Nat)
  /-- The number of rows. -/
  | rows (count : Nat)
  /-- Whether there is a row. -/
  | found (present : Bool)
  deriving DecidableEq

/-- How the database behaves. -/
inductive Reply where
  /-- It answers without rows. -/
  | noRows
  /-- It refuses. -/
  | refused (refusal : Refusal)
  deriving DecidableEq

namespace Mode

/-- The answer of a run without rows. -/
def answerNoRows : Mode → Except Error Answer
  | execute => .ok (.effect 0 0)
  | fetchAll => .ok (.rows 0)
  | fetchOne => .error (.database .rowNotFound)
  | fetchOptional => .ok (.found false)

/-- The answer of a run on a database that behaves in the given way. -/
def answer (mode : Mode) : Reply → Except Error Answer
  | .noRows => mode.answerNoRows
  | .refused refusal => .error (.database refusal)

end Mode

namespace Prepared

/-- Binds a plan. -/
def ofPlan (plan : Plan) (bindings : Bindings) : Except Error Prepared :=
  (plan.bind bindings).map fun arguments => ⟨plan, arguments⟩

/-- Compiles a text with the standard settings and binds it. -/
def ofText (text : Text) (bindings : Bindings) : Except Error Prepared :=
  match (Template.ofText text).compile with
  | .error e => .error e
  | .ok plan => ofPlan plan bindings

/-- What a run sends to the database. -/
def statement (prepared : Prepared) : Statement :=
  .ofArguments prepared.plan.sql prepared.arguments

/-- The event of a run. -/
def event (prepared : Prepared) : Event := .executed prepared.plan.sql prepared.arguments.size

end Prepared

end NamedSql
