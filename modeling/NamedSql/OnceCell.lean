/-! # Cells that are written once

A cell holds at most one value, made on first use by a computation that may fail. Many callers may
use a cell at the same time: a caller looks at the cell without the lock, and if it is empty takes
the lock, looks again, and only then runs the computation, stores its value and gives the lock back.
A computation that fails leaves the cell empty.

`step` is one step of one caller, so an interleaving of callers is a sequence of steps; `get` is the
outcome for a caller that is alone. -/

namespace NamedSql

/-- A value that is made on first use. -/
structure OnceCell (α : Type) where
  /-- The value, once it is made. -/
  stored : Option α
  /-- The caller that holds the lock. -/
  holder : Option Nat
  deriving DecidableEq

namespace OnceCell

variable {ε α : Type}

/-- The cell that nobody has used. -/
def empty : OnceCell α := ⟨none, none⟩

/-- The value is made. -/
def isFull (cell : OnceCell α) : Bool := cell.stored.isSome

/-- How far a caller has come. -/
inductive Stage (ε α : Type) where
  /-- About to look at the cell without the lock. -/
  | look
  /-- Waiting for the lock. -/
  | wait
  /-- About to look at the cell again, with the lock. -/
  | lookAgain
  /-- Running the computation, which has the given outcome, with the lock. -/
  | running (outcome : Except ε α)
  /-- About to store the value, with the lock. -/
  | store (value : α)
  /-- About to give the lock back. -/
  | release (answer : Except ε α)
  /-- Done. -/
  | done (answer : Except ε α)

/-- The value is stored unless there is one, and the one that the cell then holds is the answer. -/
def getOrStore (cell : OnceCell α) (value : α) : α × OnceCell α :=
  match cell.stored with
  | some old => (old, cell)
  | none => (value, { cell with stored := some value })

/-- One step of a caller. `outcome` is what its computation would answer if it started now. -/
def step (caller : Nat) (outcome : Except ε α) (cell : OnceCell α) :
    Stage ε α → OnceCell α × Stage ε α
  | .look =>
    match cell.stored with
    | some value => (cell, .done (.ok value))
    | none => (cell, .wait)
  | .wait =>
    match cell.holder with
    | some _ => (cell, .wait)
    | none => ({ cell with holder := some caller }, .lookAgain)
  | .lookAgain =>
    match cell.stored with
    | some value => (cell, .release (.ok value))
    | none => (cell, .running outcome)
  | .running (.ok value) => (cell, .store value)
  | .running (.error e) => (cell, .release (.error e))
  | .store value =>
    let (kept, cell) := cell.getOrStore value
    (cell, .release (.ok kept))
  | .release answer => ({ cell with holder := none }, .done answer)
  | .done answer => (cell, .done answer)

/-- A step from one stage to the other starts the computation. -/
def Stage.starts : Stage ε α → Stage ε α → Bool
  | .lookAgain, .running _ => true
  | _, _ => false

/-- The answer for a caller that is alone, and the cell after it. -/
def get (cell : OnceCell α) (outcome : Except ε α) : Except ε α × OnceCell α :=
  match cell.stored with
  | some value => (.ok value, cell)
  | none =>
    match outcome with
    | .error e => (.error e, cell)
    | .ok value => (.ok value, { cell with stored := some value })

end OnceCell

end NamedSql
