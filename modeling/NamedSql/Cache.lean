import NamedSql.OnceCell
import NamedSql.Template

/-! # A cache of plans

The cache keeps the plan of every template that it was asked for, under the whole template: text,
marker, default capacity and own capacities. A template that cannot be compiled is not kept. Each
plan carries the number of the compilation that made it, so that two answers are the same object
exactly if they carry the same number. -/

namespace NamedSql

/-- A value with the number of the computation that made it. -/
structure Shared (α : Type) where
  /-- The number of the computation. -/
  serial : Nat
  /-- The value. -/
  value : α
  deriving DecidableEq

/-- Plans under the templates they were made from. -/
structure Cache where
  /-- Every cell that was ever made; a cell is known by its place in this list. -/
  cells : List (OnceCell (Shared Plan))
  /-- The templates that have a cell, each with the place of it. -/
  entries : List (Template × Nat)
  /-- The number of compilations that were started. -/
  compilations : Nat

namespace Cache

/-- The cache without plans. -/
def empty : Cache := ⟨[], [], 0⟩

/-- The number of templates that have a cell. -/
def size (cache : Cache) : Nat := cache.entries.length

/-- No template has a cell. -/
def isEmpty (cache : Cache) : Bool := cache.entries.isEmpty

/-- The place of the cell of a template. -/
def place? (cache : Cache) (template : Template) : Option Nat :=
  (cache.entries.find? fun entry => entry.1 == template).map (·.2)

/-- The place of the cell of a template, for which a cell is made if there is none. -/
def claim (cache : Cache) (template : Template) : Nat × Cache :=
  match cache.place? template with
  | some place => (place, cache)
  | none =>
    let place := cache.cells.length
    (place, { cache with
      cells := cache.cells ++ [.empty]
      entries := cache.entries ++ [(template, place)] })

/-- The cell at a place is made and empty. -/
def isVacant (cache : Cache) (place : Nat) : Bool :=
  cache.cells[place]?.any fun cell => !cell.isFull

/-- Takes the entry of a template out, if it still is the given cell and that cell is empty. -/
def discard (cache : Cache) (template : Template) (place : Nat) : Cache :=
  if cache.place? template = some place ∧ cache.isVacant place then
    { cache with entries := cache.entries.filter fun entry => entry.1 != template }
  else cache

/-- What a compilation that starts now will answer. -/
def outcome (cache : Cache) (template : Template) : Except Error (Shared Plan) :=
  template.compile.map (Shared.mk (cache.compilations + 1))

/-- The plan of a template for a caller that is alone, compiled now if it has to be. -/
def get (cache : Cache) (template : Template) : Except Error (Shared Plan) × Cache :=
  let (place, cache) := cache.claim template
  let cell := cache.cells.getD place .empty
  let (answer, after) := cell.get (cache.outcome template)
  let cache := { cache with
    cells := cache.cells.set place after
    compilations := if cell.isFull then cache.compilations else cache.compilations + 1 }
  match answer with
  | .ok shared => (.ok shared, cache)
  | .error e => (.error e, cache.discard template place)

/-- The events of one compilation for the cache. -/
def missEvents (template : Template) : List Event := .cacheMiss template.text :: template.events

end Cache

end NamedSql
