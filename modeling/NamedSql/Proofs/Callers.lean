import Mathlib.Tactic.SplitIfs
import NamedSql.Cache.Machine
import NamedSql.Proofs.Cell

/-! # Steps of callers that share a cache

One step of a call is one of the cases of `Call.Steps`, one step of a machine one of those of
`Machine.Steps`; each says which compilations it starts. A schedule leads to a machine by such steps
(`Machine.reaches_run`), so an invariant of machines is proved case by case, together with the list
of the compilations that were started. -/

namespace NamedSql.Cache

open OnceCell (Stage)

/-! ### Steps -/

/-- The compilation that a step between two stages starts. -/
def started (template : Template) (stage stage' : Stage Error (Shared Plan)) : List Template :=
  if stage.starts stage' then [template] else []

/-- The steps of a call. The last part is the templates whose compilation starts. -/
inductive Call.Steps (caller : Nat) (cache : Cache) : Call → Cache → Call → List Template → Prop
  | found {template : Template} {place : Nat} (h : cache.place? template = some place) :
      Steps caller cache (.request template) cache (.inside template place .look) []
  | made {template : Template} (h : cache.place? template = none) :
      Steps caller cache (.request template)
        { cache with
          cells := cache.cells ++ [.empty]
          entries := cache.entries ++ [(template, cache.cells.length)] }
        (.inside template cache.cells.length .look) []
  | inside {template : Template} {place : Nat} {stage stage' : Stage Error (Shared Plan)}
      {cell' : OnceCell (Shared Plan)} (hdone : ∀ answer, stage ≠ .done answer)
      (h : (cache.cells.getD place .empty).Steps caller (cache.outcome template) stage cell'
        stage') :
      Steps caller cache (.inside template place stage)
        { cache with
          cells := cache.cells.set place cell'
          compilations := cache.compilations + (started template stage stage').length }
        (.inside template place stage') (started template stage stage')
  | answered {template : Template} {place : Nat} {shared : Shared Plan} :
      Steps caller cache (.inside template place (.done (.ok shared))) cache
        (.returned template (.ok shared)) []
  | failed {template : Template} {place : Nat} {e : Error} :
      Steps caller cache (.inside template place (.done (.error e))) cache
        (.cleanup template place e) []
  | cleaned {template : Template} {place : Nat} {e : Error} :
      Steps caller cache (.cleanup template place e) (cache.discard template place)
        (.returned template (.error e)) []

theorem claim_of_some {cache : Cache} {template : Template} {place : Nat}
    (h : cache.place? template = some place) : cache.claim template = (place, cache) := by
  rw [claim, h]

theorem claim_of_none {cache : Cache} {template : Template} (h : cache.place? template = none) :
    cache.claim template = (cache.cells.length,
      { cache with
        cells := cache.cells ++ [.empty]
        entries := cache.entries ++ [(template, cache.cells.length)] }) := by
  rw [claim, h]

/-- The template whose compilation the next step of a call starts. -/
def Call.started? (cache : Cache) : Call → Option Template
  | .inside template place .lookAgain =>
    if (cache.cells.getD place .empty).isFull then none else some template
  | _ => none

theorem Call.step_inside (caller : Nat) (cache : Cache) (template : Template) (place : Nat)
    {stage : Stage Error (Shared Plan)} (hdone : ∀ answer, stage ≠ .done answer) :
    Call.step caller cache (.inside template place stage) =
      let after := (cache.cells.getD place .empty).step caller (cache.outcome template) stage
      ({ cache with
          cells := cache.cells.set place after.1
          compilations := cache.compilations + (started template stage after.2).length },
        .inside template place after.2) := by
  have hcount : ∀ after : Stage Error (Shared Plan),
      (if stage.starts after then cache.compilations + 1 else cache.compilations) =
        cache.compilations + (started template stage after).length := by
    intro after
    unfold started
    split_ifs <;> rfl
  rw [Call.step]
  · simp only [hcount]
  · rintro shared rfl
    exact hdone _ rfl
  · rintro e rfl
    exact hdone _ rfl

theorem started_step (caller : Nat) (cache : Cache) (template : Template) (place : Nat)
    (stage : Stage Error (Shared Plan)) :
    started template stage
        ((cache.cells.getD place .empty).step caller (cache.outcome template) stage).2 =
      (Call.started? cache (.inside template place stage)).toList := by
  cases stage with
  | lookAgain =>
    show started template .lookAgain _ =
      (if (cache.cells.getD place .empty).isFull then none else some template).toList
    obtain ⟨stored, holder⟩ := cache.cells.getD place .empty
    cases stored <;> rfl
  | look =>
    obtain ⟨stored, holder⟩ := cache.cells.getD place .empty
    cases stored <;> rfl
  | wait =>
    obtain ⟨stored, holder⟩ := cache.cells.getD place .empty
    cases holder <;> rfl
  | running outcome => cases outcome <;> rfl
  | store value => rfl
  | release answer => rfl
  | done answer => rfl

theorem Call.steps_step (caller : Nat) (cache : Cache) (call : Call)
    (h : ∀ template answer, call ≠ .returned template answer) :
    Steps caller cache call (call.step caller cache).1 (call.step caller cache).2
      (call.started? cache).toList := by
  cases call with
  | request template =>
    rw [Call.step]
    cases hplace : cache.place? template with
    | some place =>
      rw [claim_of_some hplace]
      exact .found hplace
    | none =>
      rw [claim_of_none hplace]
      exact .made hplace
  | inside template place stage =>
    by_cases hdone : ∃ answer, stage = .done answer
    · obtain ⟨answer, rfl⟩ := hdone
      cases answer with
      | ok shared => exact .answered
      | error e => exact .failed
    · have hdone' : ∀ answer, stage ≠ .done answer := fun answer h => hdone ⟨answer, h⟩
      rw [Call.step_inside _ _ _ _ hdone', ← started_step caller]
      exact .inside hdone' (OnceCell.steps_step _ _ _ _)
  | cleanup template place e => exact .cleaned
  | returned template answer => exact absurd rfl (h template answer)

namespace Machine

/-- The template whose compilation the next step of a caller starts. -/
def started? (machine : Machine) (index : Nat) : Option Template :=
  (machine.callers[index]?.bind (·.call)).bind (Call.started? machine.cache)

/-- The templates whose compilation a schedule starts, in this order. -/
def log (machine : Machine) : List Nat → List Template
  | [] => []
  | index :: schedule => (machine.started? index).toList ++ log (machine.step index) schedule

/-- The steps of one caller of a machine. The last part is the templates whose compilation
starts. -/
inductive Steps (machine : Machine) (index : Nat) : Machine → List Template → Prop
  | idle (h : ∀ caller, machine.callers[index]? = some caller →
      caller.call = none ∧ caller.todo = []) : Steps machine index machine []
  | begin {caller : Caller} {template : Template} {todo : List Template}
      (hcaller : machine.callers[index]? = some caller) (hcall : caller.call = none)
      (htodo : caller.todo = template :: todo) :
      Steps machine index
        { machine with
          callers := machine.callers.set index
            { caller with call := some (.request template), todo } } []
  | finish {caller : Caller} {template : Template} {answer : Except Error (Shared Plan)}
      (hcaller : machine.callers[index]? = some caller)
      (hcall : caller.call = some (.returned template answer)) :
      Steps machine index
        { machine with
          callers := machine.callers.set index
            { caller with call := none, finished := (template, answer) :: caller.finished } } []
  | call {caller : Caller} {call call' : Call} {cache' : Cache} {started : List Template}
      (hcaller : machine.callers[index]? = some caller) (hcall : caller.call = some call)
      (hsteps : call.Steps index machine.cache cache' call' started) :
      Steps machine index
        ⟨cache', machine.callers.set index { caller with call := some call' }⟩ started

theorem steps_step (machine : Machine) (index : Nat) :
    machine.Steps index (machine.step index) (machine.started? index).toList := by
  unfold Machine.step started?
  cases hcaller : machine.callers[index]? with
  | none => exact .idle fun caller h => by rw [hcaller] at h; cases h
  | some caller =>
    obtain ⟨todo, call, finished⟩ := caller
    cases call with
    | none =>
      cases todo with
      | nil =>
        refine .idle fun caller h => ?_
        obtain rfl := Option.some.inj (hcaller.symm.trans h)
        exact ⟨rfl, rfl⟩
      | cons template todo => exact .begin hcaller rfl rfl
    | some call =>
      cases call with
      | returned template answer => exact .finish hcaller rfl
      | request template =>
        exact .call hcaller rfl (Call.steps_step index machine.cache _ fun _ _ h => nomatch h)
      | inside template place stage =>
        exact .call hcaller rfl (Call.steps_step index machine.cache _ fun _ _ h => nomatch h)
      | cleanup template place e =>
        exact .call hcaller rfl (Call.steps_step index machine.cache _ fun _ _ h => nomatch h)

/-- Steps lead from one machine to the other, and start these compilations. -/
inductive Reaches (first : Machine) : Machine → List Template → Prop
  | refl : Reaches first first []
  | step {machine machine' : Machine} {log started : List Template} {index : Nat}
      (h : Reaches first machine log) (hstep : machine.Steps index machine' started) :
      Reaches first machine' (log ++ started)

theorem reaches_run_of_reaches {first machine : Machine} {log : List Template}
    (h : Reaches first machine log) (schedule : List Nat) :
    Reaches first (machine.run schedule) (log ++ machine.log schedule) := by
  induction schedule generalizing machine log with
  | nil =>
    rw [Machine.log, List.append_nil]
    exact h
  | cons index schedule ih =>
    rw [Machine.log, ← List.append_assoc]
    exact ih (h.step (steps_step machine index))

theorem reaches_run (machine : Machine) (schedule : List Nat) :
    Reaches machine (machine.run schedule) (machine.log schedule) :=
  reaches_run_of_reaches .refl schedule

end Machine

end NamedSql.Cache
