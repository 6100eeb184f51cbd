import NamedSql.Cache
import NamedSql.Lazy

/-! # Callers that share a lazy plan

Any number of callers ask one lazy template for its plan, again and again, and every call brings a
computation of its own, which may fail or not as it likes. A call goes through the stages of the
cell and is over when it has its answer. Each step is atomic, and a schedule says which caller takes
the next one.

The machine keeps the computations that were started. A plan carries the place of the computation
that made it in this list, so that two answers are the same object exactly if they carry the same
place. -/

namespace NamedSql.Lazy

open OnceCell (Stage)

/-- A computation that was started. -/
structure Run where
  /-- The caller. -/
  caller : Nat
  /-- The number of calls that the caller had finished. -/
  call : Nat
  /-- What the computation answers. -/
  outcome : Except Error Plan

/-- A caller. -/
structure Caller where
  /-- The answers of its finished calls, in order. -/
  answers : List (Except Error (Shared Plan))
  /-- How far its next call has come. -/
  stage : Stage Error (Shared Plan)

/-- A call that comes to a stage. If it is done its answer is kept, and the next call begins. -/
def Caller.advance (caller : Caller) : Stage Error (Shared Plan) → Caller
  | .done answer => ⟨caller.answers ++ [answer], .look⟩
  | stage => { caller with stage }

/-- Callers that share a lazy plan. -/
structure Machine where
  /-- The template. -/
  template : Template
  /-- The plan, once it is made. -/
  cell : OnceCell (Shared Plan)
  /-- The computations that were started, in order. -/
  runs : List Run
  /-- The callers. -/
  callers : List Caller

/-- Whose step is next, and the computation that its call brings. -/
structure Turn where
  /-- The caller. -/
  caller : Nat
  /-- What the computation makes of the template. -/
  compile : Template → Except Error Plan

namespace Machine

/-- Callers that are about to call for the first time. -/
def start (template : Template) (callers : Nat) : Machine :=
  ⟨template, .empty, [], List.replicate callers ⟨[], .look⟩⟩

/-- The plan is made. -/
def isCompiled (machine : Machine) : Bool := machine.cell.isFull

/-- One step of one caller. -/
def step (machine : Machine) (turn : Turn) : Machine :=
  match machine.callers[turn.caller]? with
  | none => machine
  | some caller =>
    let outcome := turn.compile machine.template
    let (cell, stage) := machine.cell.step turn.caller
      (outcome.map (Shared.mk machine.runs.length)) caller.stage
    { machine with
      cell
      runs :=
        if caller.stage.starts stage then
          machine.runs ++ [⟨turn.caller, caller.answers.length, outcome⟩]
        else machine.runs
      callers := machine.callers.set turn.caller (caller.advance stage) }

/-- The steps of a schedule. -/
def run (machine : Machine) (schedule : List Turn) : Machine := schedule.foldl step machine

end Machine

end NamedSql.Lazy
