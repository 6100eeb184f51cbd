import NamedSql.Proofs.Counting

/-! # Callers that share a cache come to an end

A cell is only locked by a caller that is at work on it (`Held`), and such a caller never waits. So
as long as a call is not finished there is a caller whose next step leaves less to do
(`exists_rank_lt`), and some schedule leads every machine to one where all calls are finished
(`exists_finished`). On the way no request is lost or moved: the calls of a caller are its requests,
in their order (`map_callerTemplates_of_reaches`). -/

namespace NamedSql.Cache.Machine

open OnceCell (Stage)

variable {machine machine' : Machine} {log owners started : List Template} {index : Nat}
  {template : Template}

/-! ### Locks -/

/-- The caller is at work on the cell at a place. -/
def AtWork (machine : Machine) (index place : Nat) : Prop :=
  ∃ caller template stage, machine.callers[index]? = some caller ∧
    caller.call = some (.inside template place stage) ∧ stage.Locks

/-- A cell that is locked has a caller at work on it. -/
def Held (machine : Machine) : Prop :=
  ∀ (place : Nat) (cell : OnceCell (Shared Plan)) (index : Nat),
    machine.cache.cells[place]? = some cell → cell.holder = some index →
      machine.AtWork index place

theorem AtWork.of_steps {other place : Nat} (hwork : machine.AtWork other place)
    (hne : other ≠ index) (h : machine.Steps index machine' started) :
    machine'.AtWork other place := by
  obtain ⟨caller, template, stage, hcaller, hcall, hlocks⟩ := hwork
  rw [← h.callers_of_ne hne] at hcaller
  exact ⟨caller, template, stage, hcaller, hcall, hlocks⟩

/-- A caller that is not at work on a cell has no lock before and after its step. -/
theorem Held.of_cells (hheld : machine.Held) (h : machine.Steps index machine' started)
    (hcells : ∀ (place : Nat) (cell : OnceCell (Shared Plan)) (other : Nat),
      machine'.cache.cells[place]? = some cell → cell.holder = some other →
        machine.cache.cells[place]? = some cell)
    (hidle : ∀ place, ¬machine.AtWork index place) : machine'.Held := by
  intro place cell other hcell hholder
  have hwork := hheld place cell other (hcells place cell other hcell hholder) hholder
  have hne : other ≠ index := by
    rintro rfl
    exact hidle place hwork
  exact hwork.of_steps hne h

/-- A caller that is at work on a cell changes no other one. -/
theorem Held.of_inside (hheld : machine.Held) (hsound : machine.Sound log owners)
    (h : machine.Steps index machine' started) {caller : Caller} {place : Nat}
    {stage : Stage Error (Shared Plan)} (hcaller : machine.callers[index]? = some caller)
    (hcall : caller.call = some (.inside template place stage))
    (hdone : ∀ answer, stage ≠ .done answer) : machine'.Held := by
  obtain ⟨cell, stage', cell', hcell, -, hsteps, hcaller', hcells, -, -⟩ :=
    h.exists_of_inside hsound hcaller hcall hdone
  have hlt := (List.getElem?_eq_some_iff.mp hcell).1
  have hown : ∀ place1 cell1, machine.cache.cells[place1]? = some cell1 →
      cell1.holder = some index → place1 = place ∧ stage.Locks := by
    intro place1 cell1 hcell1 hholder1
    obtain ⟨caller1, template1, stage1, hcaller1, hcall1, hlocks1⟩ := hheld _ _ _ hcell1 hholder1
    obtain rfl := Option.some.inj (hcaller.symm.trans hcaller1)
    rw [hcall] at hcall1
    cases hcall1
    exact ⟨rfl, hlocks1⟩
  intro place1 cell1 other hcell1 hholder1
  rw [hcells] at hcell1
  by_cases hplace : place = place1
  · subst hplace
    rw [List.getElem?_set_self hlt] at hcell1
    obtain rfl := Option.some.inj hcell1
    by_cases hne : other = index
    · subst hne
      exact ⟨_, template, stage', hcaller', rfl,
        hsteps.locks (fun hholder => (hown _ _ hcell hholder).2) hholder1⟩
    · exact (hheld _ _ _ hcell (hsteps.holder_of_ne hne hholder1)).of_steps hne h
  · rw [List.getElem?_set_ne hplace] at hcell1
    by_cases hne : other = index
    · subst hne
      exact absurd (hown _ _ hcell1 hholder1).1.symm hplace
    · exact (hheld _ _ _ hcell1 hholder1).of_steps hne h

theorem Steps.held (hsound : machine.Sound log owners) (h : machine.Steps index machine' started)
    (hheld : machine.Held) : machine'.Held := by
  by_cases hinside : ∃ caller template place stage, machine.callers[index]? = some caller ∧
      caller.call = some (.inside template place stage) ∧ ∀ answer, stage ≠ .done answer
  · obtain ⟨caller, template, place, stage, hcaller, hcall, hdone⟩ := hinside
    exact hheld.of_inside hsound h hcaller hcall hdone
  · have hidle : ∀ place, ¬machine.AtWork index place := by
      rintro place ⟨caller, template, stage, hcaller, hcall, hlocks⟩
      refine hinside ⟨caller, template, place, stage, hcaller, hcall, ?_⟩
      rintro answer rfl
      exact hlocks
    refine hheld.of_cells h (fun place cell other hcell hholder => ?_) hidle
    cases h with
    | call hcaller hcall hsteps =>
      cases hsteps with
      | made =>
        rw [List.getElem?_append] at hcell
        split_ifs at hcell with hlt
        · exact hcell
        · obtain rfl := List.mem_singleton.mp (List.mem_of_getElem? hcell)
          cases hholder
      | inside hdone => exact absurd ⟨_, _, _, _, hcaller, hcall, hdone⟩ hinside
      | cleaned =>
        unfold discard at hcell
        split_ifs at hcell <;> exact hcell
      | _ => exact hcell
    | _ => exact hcell

theorem held_of_reaches {requests : List (List Template)}
    (h : Reaches (start .empty requests) machine log) : machine.Held := by
  refine holds_of_reaches (P := fun machine _ => machine.Held) ?_
    (fun hsound hstep hheld => hstep.held hsound hheld) h
  intro place cell index hcell
  cases hcell

/-! ### Less to do -/

/-- The number of steps that a call may still take, waiting apart. -/
def callRank : Call → Nat
  | .request _ => 10
  | .inside _ _ stage => stage.rank + 2
  | .cleanup _ _ _ => 2
  | .returned _ _ => 1

/-- The number of steps that a caller may still take, waiting apart. -/
def callerRank (caller : Caller) : Nat :=
  (caller.call.map callRank).getD 0 + 11 * caller.todo.length

/-- The number of steps that the callers may still take, waiting apart. -/
def rank (machine : Machine) : Nat := (machine.callers.map callerRank).sum

/-- The caller has nothing to do any more. -/
def Caller.Finished (caller : Caller) : Prop := caller.call = none ∧ caller.todo = []

theorem callRank_lt {cache cache' : Cache} {call call' : Call}
    (h : call.Steps index cache cache' call' started)
    (hfree : ∀ template place, call = .inside template place .wait →
      (cache.cells.getD place .empty).holder = none) :
    callRank call' < callRank call := by
  cases h with
  | found => simp [callRank, Stage.rank]
  | made => simp [callRank, Stage.rank]
  | @inside template place stage stage' cell' hdone hsteps =>
    have hlt := hsteps.rank_lt hdone fun hwait => hfree template place (by rw [hwait])
    show stage'.rank + 2 < stage.rank + 2
    omega
  | answered => simp [callRank, Stage.rank]
  | failed => simp [callRank, Stage.rank]
  | cleaned => simp [callRank]

/-- A caller that has something to do and need not wait leaves less to do. -/
theorem Steps.rank_lt (h : machine.Steps index machine' started) {caller : Caller}
    (hcaller : machine.callers[index]? = some caller) (hbusy : ¬Caller.Finished caller)
    (hfree : ∀ template place, caller.call = some (.inside template place .wait) →
      (machine.cache.cells.getD place .empty).holder = none) :
    machine'.rank < machine.rank := by
  have hless : ∀ new, callerRank new < callerRank caller →
      ((machine.callers.set index new).map callerRank).sum < machine.rank := by
    intro new hlt
    have hsum := sum_map_set callerRank new hcaller
    unfold rank
    omega
  cases h with
  | idle hidle => exact absurd (hidle caller hcaller) hbusy
  | @begin _ template todo hcaller' hcall htodo =>
    obtain rfl := Option.some.inj (hcaller.symm.trans hcaller')
    refine hless _ ?_
    unfold callerRank
    rw [hcall, htodo, List.length_cons]
    show 10 + 11 * todo.length < 0 + 11 * (todo.length + 1)
    omega
  | finish hcaller' hcall =>
    obtain rfl := Option.some.inj (hcaller.symm.trans hcaller')
    refine hless _ ?_
    unfold callerRank
    rw [hcall]
    show 0 + 11 * caller.todo.length < 1 + 11 * caller.todo.length
    omega
  | @call _ call call' _ _ hcaller' hcall hsteps =>
    obtain rfl := Option.some.inj (hcaller.symm.trans hcaller')
    have hlt : callRank call' < callRank call := by
      refine callRank_lt hsteps ?_
      rintro template place rfl
      exact hfree template place hcall
    refine hless _ ?_
    unfold callerRank
    rw [hcall]
    show callRank call' + 11 * caller.todo.length < callRank call + 11 * caller.todo.length
    omega

/-- As long as a caller has something to do, one of them can leave less to do: the caller itself, or
the one that it waits for. -/
theorem exists_rank_lt (hsound : machine.Sound log owners) (hheld : machine.Held) {caller : Caller}
    (hcaller : machine.callers[index]? = some caller) (hbusy : ¬Caller.Finished caller) :
    ∃ index, (machine.step index).rank < machine.rank := by
  by_cases hwaits : ∃ template place holder, caller.call = some (.inside template place .wait) ∧
      (machine.cache.cells.getD place .empty).holder = some holder
  · obtain ⟨template, place, holder, hcall, hholder⟩ := hwaits
    obtain ⟨-, cell, hcell, -⟩ := hsound.call _ _ _ hcaller hcall
    rw [getD_cells hcell] at hholder
    obtain ⟨caller', template', stage, hcaller', hcall', hlocks⟩ := hheld _ _ _ hcell hholder
    refine ⟨holder, (steps_step machine holder).rank_lt hcaller' ?_ ?_⟩
    · rintro ⟨hnone, -⟩
      rw [hnone] at hcall'
      cases hcall'
    · intro t p hwait
      rw [hcall'] at hwait
      cases hwait
      exact hlocks.elim
  · refine ⟨index, (steps_step machine index).rank_lt hcaller hbusy fun template place hcall => ?_⟩
    cases hholder : (machine.cache.cells.getD place .empty).holder with
    | none => rfl
    | some holder => exact absurd ⟨template, place, holder, hcall, hholder⟩ hwaits

/-- **No caller is stuck**: the callers of a machine that runs from an empty cache can all come to
an end, whatever steps were taken before. -/
theorem exists_finished {requests : List (List Template)}
    (h : Reaches (start .empty requests) machine log) :
    ∃ schedule, ∀ caller ∈ (machine.run schedule).callers, Caller.Finished caller := by
  induction hn : machine.rank using Nat.strongRecOn generalizing machine log with
  | _ n ih =>
    subst hn
    by_cases hall : ∀ caller ∈ machine.callers, Caller.Finished caller
    · exact ⟨[], hall⟩
    · obtain ⟨caller, hmem, hbusy⟩ : ∃ caller ∈ machine.callers, ¬Caller.Finished caller := by
        by_contra hnone
        exact hall fun caller hmem => by_contra fun hbusy => hnone ⟨caller, hmem, hbusy⟩
      obtain ⟨index, hcaller⟩ := List.mem_iff_getElem?.mp hmem
      obtain ⟨owners, hsound⟩ := sound_of_reaches h
      obtain ⟨mover, hlt⟩ := exists_rank_lt hsound (held_of_reaches h) hcaller hbusy
      obtain ⟨schedule, hfinished⟩ := ih _ hlt (h.step (steps_step machine mover)) rfl
      exact ⟨mover :: schedule, hfinished⟩

/-! ### Requests -/

/-- The template that a call asks for. -/
def callTemplate : Call → Template
  | .request template => template
  | .inside template _ _ => template
  | .cleanup template _ _ => template
  | .returned template _ => template

/-- The templates that a caller has asked for, asks for and will ask for. -/
def callerTemplates (caller : Caller) : List Template :=
  caller.finished.reverse.map (·.1) ++ ((caller.call.map callTemplate).toList ++ caller.todo)

theorem callTemplate_of_steps {cache cache' : Cache} {call call' : Call}
    (h : call.Steps index cache cache' call' started) : callTemplate call' = callTemplate call := by
  cases h <;> rfl

theorem Steps.map_callerTemplates (h : machine.Steps index machine' started) :
    machine'.callers.map callerTemplates = machine.callers.map callerTemplates := by
  have hset : ∀ {caller new : Caller}, machine.callers[index]? = some caller →
      callerTemplates new = callerTemplates caller →
        (machine.callers.set index new).map callerTemplates =
          machine.callers.map callerTemplates := by
    intro caller new hcaller hnew
    obtain ⟨hlt, rfl⟩ := List.getElem?_eq_some_iff.mp hcaller
    rw [List.map_set, hnew, ← List.map_set, List.set_getElem_self]
  cases h with
  | idle => rfl
  | begin hcaller hcall htodo =>
    refine hset hcaller ?_
    rw [callerTemplates, callerTemplates, hcall, htodo]
    rfl
  | finish hcaller hcall =>
    refine hset hcaller ?_
    rw [callerTemplates, callerTemplates, hcall, List.reverse_cons, List.map_append,
      List.append_assoc]
    rfl
  | call hcaller hcall hsteps =>
    refine hset hcaller ?_
    rw [callerTemplates, callerTemplates, hcall, Option.map_some, Option.map_some,
      callTemplate_of_steps hsteps]

theorem map_callerTemplates_of_reaches {requests : List (List Template)}
    (h : Reaches (start .empty requests) machine log) :
    machine.callers.map callerTemplates = requests := by
  induction h with
  | refl =>
    rw [start, List.map_map]
    exact List.map_id' requests
  | step _ hstep ih => rw [hstep.map_callerTemplates, ih]

end NamedSql.Cache.Machine
