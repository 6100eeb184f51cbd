import NamedSql.Cache

/-! # Callers that share a cache

Any number of callers ask one cache for plans at the same time. A call goes through these steps:
find the cell of the template or make one; go through the stages of the cell; and if the compilation
failed, take the entry out again. Each step is atomic, and a schedule says which caller takes the
next one. A caller that waits for a lock takes steps that change nothing. -/

namespace NamedSql.Cache

/-- How far a call has come. -/
inductive Call where
  /-- About to find or make the cell of the template. -/
  | request (template : Template)
  /-- Using the cell at the given place. -/
  | inside (template : Template) (place : Nat) (stage : OnceCell.Stage Error (Shared Plan))
  /-- About to take the entry out after a failure. -/
  | cleanup (template : Template) (place : Nat) (error : Error)
  /-- Finished. -/
  | returned (template : Template) (answer : Except Error (Shared Plan))

/-- One step of a call. -/
def Call.step (caller : Nat) (cache : Cache) : Call → Cache × Call
  | .request template =>
    let (place, cache) := cache.claim template
    (cache, .inside template place .look)
  | .inside template _ (.done (.ok shared)) => (cache, .returned template (.ok shared))
  | .inside template place (.done (.error e)) => (cache, .cleanup template place e)
  | .inside template place stage =>
    let (cell, next) := (cache.cells.getD place .empty).step caller (cache.outcome template) stage
    let cache := { cache with
      cells := cache.cells.set place cell
      compilations := if stage.starts next then cache.compilations + 1 else cache.compilations }
    (cache, .inside template place next)
  | .cleanup template place e => (cache.discard template place, .returned template (.error e))
  | .returned template answer => (cache, .returned template answer)

/-- A caller with the calls it has made, makes and will make. -/
structure Caller where
  /-- The templates still to be asked for. -/
  todo : List Template
  /-- The call in progress. -/
  call : Option Call
  /-- The finished calls, latest first. -/
  finished : List (Template × Except Error (Shared Plan))

/-- Callers that share a cache. -/
structure Machine where
  /-- The cache. -/
  cache : Cache
  /-- The callers. -/
  callers : List Caller

namespace Machine

/-- Callers that are about to ask a cache for the given templates. -/
def start (cache : Cache) (requests : List (List Template)) : Machine :=
  ⟨cache, requests.map fun todo => ⟨todo, none, []⟩⟩

/-- One step of one caller: it begins a call, takes a step of it, or puts its answer away. -/
def step (machine : Machine) (index : Nat) : Machine :=
  match machine.callers[index]? with
  | none => machine
  | some caller =>
    match caller.call, caller.todo with
    | none, [] => machine
    | none, template :: todo =>
      { machine with
        callers := machine.callers.set index
          { caller with call := some (.request template), todo } }
    | some (.returned template answer), _ =>
      { machine with
        callers := machine.callers.set index
          { caller with call := none, finished := (template, answer) :: caller.finished } }
    | some call, _ =>
      let (cache, call) := call.step index machine.cache
      { cache, callers := machine.callers.set index { caller with call := some call } }

/-- The steps of a schedule, which names a caller for each of them. -/
def run (machine : Machine) (schedule : List Nat) : Machine := schedule.foldl step machine

/-- Every caller in turn, for the given number of rounds. -/
def inTurn (callers rounds : Nat) : List Nat := (List.replicate rounds (List.range callers)).flatten

end Machine

/-- The answers for callers that ask for one template at the same time and take their steps in turn,
and the cache after them. A call takes at most ten steps of its own, and waits at most five rounds
for each of the others. -/
def getTogether (cache : Cache) (template : Template) (callers : Nat) :
    List (Except Error (Shared Plan)) × Cache :=
  let machine := (Machine.start cache (List.replicate callers [template])).run
    (Machine.inTurn callers (5 * callers + 10))
  (machine.callers.flatMap fun caller => caller.finished.map (·.2), machine.cache)

end NamedSql.Cache
