import Mathlib.Algebra.GroupWithZero.Nat
import NamedSql.Proofs.Sharing

/-! # Which compilations are started, and how often

Once the compilation of a template that can be compiled was started, the plan is stored in its cell
or about to be, by the caller that has the lock (`Makes`); so no second one starts
(`once_of_reaches`). Of the templates that cannot be compiled one compilation is started for each
call that fails (`sum_callerFailures_of_reaches`). An entry is there on behalf of a caller, which is
about to take it out or has got the plan (`vouched_of_reaches`). -/

namespace NamedSql.Cache.Machine

open OnceCell (Stage)

variable {machine machine' : Machine} {log owners started : List Template} {index : Nat}
  {template : Template}

/-! ### The caller that moves and the others -/

theorem Steps.callers_of_ne (h : machine.Steps index machine' started) {other : Nat}
    (hne : other ≠ index) : machine'.callers[other]? = machine.callers[other]? := by
  cases h with
  | idle => rfl
  | begin => exact List.getElem?_set_ne (Ne.symm hne)
  | finish => exact List.getElem?_set_ne (Ne.symm hne)
  | call => exact List.getElem?_set_ne (Ne.symm hne)

theorem getElem?_set_caller {callers : List Caller} {caller : Caller}
    (h : callers[index]? = some caller) (new : Caller) :
    (callers.set index new)[index]? = some new :=
  List.getElem?_set_self (List.getElem?_eq_some_iff.mp h).1

/-- A call in progress takes one of its steps. -/
theorem Steps.exists_of_call (h : machine.Steps index machine' started) {caller : Caller}
    {call : Call} (hcaller : machine.callers[index]? = some caller)
    (hcall : caller.call = some call) (hreturned : ∀ t answer, call ≠ .returned t answer) :
    ∃ call', call.Steps index machine.cache machine'.cache call' started ∧
      machine'.callers[index]? = some { caller with call := some call' } := by
  cases h with
  | idle hidle =>
    rw [(hidle caller hcaller).1] at hcall
    cases hcall
  | begin hcaller' hcall' =>
    obtain rfl := Option.some.inj (hcaller.symm.trans hcaller')
    rw [hcall'] at hcall
    cases hcall
  | finish hcaller' hcall' =>
    obtain rfl := Option.some.inj (hcaller.symm.trans hcaller')
    exact absurd (Option.some.inj (hcall.symm.trans hcall')) (hreturned _ _)
  | call hcaller' hcall' hsteps =>
    obtain rfl := Option.some.inj (hcaller.symm.trans hcaller')
    obtain rfl := Option.some.inj (hcall.symm.trans hcall')
    exact ⟨_, hsteps, getElem?_set_caller hcaller _⟩

theorem Steps.evolves (hsound : machine.Sound log owners)
    (h : machine.Steps index machine' started) :
    ∃ owners', Evolves index owners machine.cache owners' machine'.cache := by
  cases h with
  | idle => exact ⟨owners, .refl _ _ _⟩
  | begin => exact ⟨owners, .refl _ _ _⟩
  | finish => exact ⟨owners, .refl _ _ _⟩
  | call hcaller hcall hsteps =>
    obtain ⟨owners', -, hevolves, -⟩ :=
      hsteps.sound hsound.cache (hsound.call _ _ _ hcaller hcall)
    exact ⟨owners', hevolves⟩

/-- A caller at a cell takes one of the steps of the cell. -/
theorem Steps.exists_of_inside (hsound : machine.Sound log owners)
    (h : machine.Steps index machine' started) {caller : Caller} {place : Nat}
    {stage : Stage Error (Shared Plan)} (hcaller : machine.callers[index]? = some caller)
    (hcall : caller.call = some (.inside template place stage))
    (hdone : ∀ answer, stage ≠ .done answer) :
    ∃ cell stage' cell', machine.cache.cells[place]? = some cell ∧
      stage.Sound index (Possible log template) cell ∧
      cell.Steps index (machine.cache.outcome template) stage cell' stage' ∧
      machine'.callers[index]? =
        some { caller with call := some (.inside template place stage') } ∧
      machine'.cache.cells = machine.cache.cells.set place cell' ∧
      machine'.cache.entries = machine.cache.entries ∧
      started = Cache.started template stage stage' := by
  obtain ⟨call', hsteps, hcaller'⟩ := h.exists_of_call hcaller hcall fun _ _ h => nomatch h
  obtain ⟨-, cell, hcell, hstage⟩ := hsound.call _ _ _ hcaller hcall
  generalize hcache' : machine'.cache = cache' at hsteps
  cases hsteps with
  | answered => exact absurd rfl (hdone _)
  | failed => exact absurd rfl (hdone _)
  | @inside _ _ _ stage' cell' _ hcellsteps =>
    rw [getD_cells hcell] at hcellsteps
    exact ⟨cell, stage', cell', hcell, hstage, hcellsteps, hcaller', rfl, rfl, rfl⟩

/-! ### Templates that can be compiled -/

/-- The caller has started a computation and not yet stored its value. -/
def Pending : Stage Error (Shared Plan) → Prop
  | .running _ | .store _ => True
  | _ => False

/-- The plan of a template is stored at a place, or a caller is about to store it. -/
def Makes (machine : Machine) (template : Template) (place : Nat) : Prop :=
  (∃ cell value, machine.cache.cells[place]? = some cell ∧ cell.stored = some value) ∨
    ∃ (index : Nat) (caller : Caller) (stage : Stage Error (Shared Plan)),
      machine.callers[index]? = some caller ∧
        caller.call = some (.inside template place stage) ∧ Pending stage

theorem stored_or_pending {cell cell' : OnceCell (Shared Plan)}
    {outcome : Except Error (Shared Plan)} {stage stage' : Stage Error (Shared Plan)}
    (h : cell.Steps index outcome stage cell' stage') (hpending : Pending stage)
    (hok : ∀ e, stage ≠ .running (.error e)) :
    (∃ value, cell'.stored = some value) ∨ Pending stage' := by
  cases h with
  | made => exact Or.inr trivial
  | failed => exact absurd rfl (hok _)
  | store => exact Or.inl ⟨_, rfl⟩
  | keep hstored => exact Or.inl ⟨_, hstored⟩
  | _ => exact hpending.elim

/-- A plan that is about to be stored will be. -/
theorem Steps.makes (hsound : machine.Sound log owners) (h : machine.Steps index machine' started)
    (hcompiles : template.Compiles) {place : Nat} (hmakes : machine.Makes template place) :
    machine'.Makes template place := by
  rcases hmakes with ⟨cell, value, hcell, hstored⟩ |
    ⟨other, caller, stage, hcaller, hcall, hpending⟩
  · obtain ⟨owners', hevolves⟩ := h.evolves hsound
    obtain ⟨cell', hcell', hcellevolves⟩ := hevolves.cell place cell hcell
    exact Or.inl ⟨cell', value, hcell', hcellevolves.stored value hstored⟩
  · by_cases hne : other = index
    · subst hne
      have hdone : ∀ answer, stage ≠ .done answer := by
        rintro answer rfl
        exact hpending
      obtain ⟨cell, stage', cell', hcell, hstage, hsteps, hcaller', hcells, -, -⟩ :=
        h.exists_of_inside hsound hcaller hcall hdone
      have hok : ∀ e, stage ≠ .running (.error e) := by
        rintro e rfl
        obtain ⟨plan, hplan⟩ := hcompiles
        rw [hstage.2.2.compile_eq_error] at hplan
        cases hplan
      rcases stored_or_pending hsteps hpending hok with ⟨value, hstored⟩ | hpending'
      · refine Or.inl ⟨cell', value, ?_, hstored⟩
        rw [hcells]
        exact List.getElem?_set_self (List.getElem?_eq_some_iff.mp hcell).1
      · exact Or.inr ⟨other, _, stage', hcaller', rfl, hpending'⟩
    · rw [← h.callers_of_ne hne] at hcaller
      exact Or.inr ⟨other, caller, stage, hcaller, hcall, hpending⟩

/-- A step starts no compilation, or the one of a template whose cell is empty and locked by the
caller. -/
theorem Steps.eq_nil_or_exists (hsound : machine.Sound log owners)
    (h : machine.Steps index machine' started) :
    started = [] ∨ ∃ template place, started = [template] ∧ owners[place]? = some template ∧
      (∃ cell, machine.cache.cells[place]? = some cell ∧ cell.stored = none ∧
        cell.holder = some index) ∧
      (∃ caller, machine.callers[index]? = some caller ∧
        caller.call = some (.inside template place .lookAgain)) ∧
      machine'.Makes template place := by
  by_cases hstart : ∃ caller template place, machine.callers[index]? = some caller ∧
      caller.call = some (.inside template place .lookAgain)
  · obtain ⟨caller, template, place, hcaller, hcall⟩ := hstart
    obtain ⟨howner, -⟩ := hsound.call _ _ _ hcaller hcall
    obtain ⟨cell, stage', cell', hcell, hstage, hsteps, hcaller', -, -, rfl⟩ :=
      h.exists_of_inside hsound hcaller hcall fun _ h => nomatch h
    cases hsteps with
    | foundFull => exact Or.inl rfl
    | start hempty =>
      exact Or.inr ⟨template, place, rfl, howner, ⟨cell, hcell, hempty, hstage⟩,
        ⟨caller, hcaller, hcall⟩, Or.inr ⟨index, _, _, hcaller', rfl, trivial⟩⟩
  · cases h with
    | idle => exact Or.inl rfl
    | begin => exact Or.inl rfl
    | finish => exact Or.inl rfl
    | call hcaller hcall hsteps =>
      cases hsteps with
      | @inside template place stage stage' cell' hdone hcellsteps =>
        refine Or.inl ?_
        cases hcellsteps with
        | start => exact absurd ⟨_, _, _, hcaller, hcall⟩ hstart
        | _ => rfl
      | _ => exact Or.inl rfl

/-- At most one compilation was started for every template that can be compiled. -/
structure Once (log : List Template) (machine : Machine) : Prop where
  count : ∀ template, template.Compiles → log.count template ≤ 1
  makes : ∀ template, template.Compiles → template ∈ log →
    ∃ place, (template, place) ∈ machine.cache.entries ∧ machine.Makes template place

/-- No compilation starts where the plan is stored or another caller is about to store it. -/
theorem not_makes (hsound : machine.Sound log owners) {place : Nat} {cell : OnceCell (Shared Plan)}
    (hcell : machine.cache.cells[place]? = some cell) (hempty : cell.stored = none)
    (hholder : cell.holder = some index) {caller : Caller}
    (hcaller : machine.callers[index]? = some caller)
    (hcall : caller.call = some (.inside template place .lookAgain)) :
    ¬machine.Makes template place := by
  rintro (⟨cell', value, hcell', hstored⟩ | ⟨other, caller', stage, hcaller', hcall', hpending⟩)
  · obtain rfl := Option.some.inj (hcell.symm.trans hcell')
    rw [hempty] at hstored
    cases hstored
  · obtain ⟨-, cell', hcell', hstage⟩ := hsound.call _ _ _ hcaller' hcall'
    obtain rfl := Option.some.inj (hcell.symm.trans hcell')
    have hother : cell.holder = some other := by
      cases stage with
      | running outcome => exact hstage.1
      | store value => exact hstage.1
      | _ => exact hpending.elim
    obtain rfl := Option.some.inj (hholder.symm.trans hother)
    obtain rfl := Option.some.inj (hcaller.symm.trans hcaller')
    rw [hcall] at hcall'
    cases hcall'
    exact hpending

theorem Steps.once (hsound : machine.Sound log owners) (h : machine.Steps index machine' started)
    (honce : machine.Once log) : machine'.Once (log ++ started) := by
  obtain ⟨owners', hevolves⟩ := h.evolves hsound
  have hkeeps : ∀ t, t.Compiles → t ∈ log →
      ∃ place, (t, place) ∈ machine'.cache.entries ∧ machine'.Makes t place := by
    intro t hcompiles hmem
    obtain ⟨place, hentry, hmakes⟩ := honce.makes t hcompiles hmem
    exact ⟨place, hevolves.entry t place hentry hcompiles, h.makes hsound hcompiles hmakes⟩
  rcases h.eq_nil_or_exists hsound with rfl | ⟨template, place, rfl, howner, hcell, hcaller, hmakes⟩
  · rw [List.append_nil]
    exact ⟨honce.count, hkeeps⟩
  · obtain ⟨cell, hcell, hempty, hholder⟩ := hcell
    obtain ⟨caller, hcaller, hcall⟩ := hcaller
    have hfresh : template.Compiles → template ∉ log := by
      intro hcompiles hmem
      obtain ⟨place', hentry, hmakes'⟩ := honce.makes template hcompiles hmem
      obtain rfl := hsound.cache.eq_of_mem hentry (hsound.cache.kept _ _ howner hcompiles)
      exact not_makes hsound hcell hempty hholder hcaller hcall hmakes'
    refine ⟨fun t hcompiles => ?_, fun t hcompiles hmem => ?_⟩
    · rw [List.count_append]
      by_cases heq : t = template
      · subst heq
        have hlog : log.count t = 0 := List.count_eq_zero.mpr (hfresh hcompiles)
        have hone : [t].count t = 1 := List.count_singleton_self
        omega
      · have hne : t ∉ [template] := by simpa using heq
        rw [List.count_eq_zero.mpr hne]
        exact honce.count t hcompiles
    · rcases List.mem_append.mp hmem with hmem | hmem
      · exact hkeeps t hcompiles hmem
      · obtain rfl := List.mem_singleton.mp hmem
        have hentry := hsound.cache.kept _ _ howner hcompiles
        exact ⟨place, hevolves.entry _ _ hentry hcompiles, hmakes⟩

theorem once_of_reaches {requests : List (List Template)}
    (h : Reaches (start .empty requests) machine log) : machine.Once log := by
  refine holds_of_reaches ⟨?_, ?_⟩ (fun hsound hstep honce => hstep.once hsound honce) h
  · exact fun _ _ => Nat.zero_le _
  · exact fun _ _ hmem => absurd hmem List.not_mem_nil

/-! ### Templates that cannot be compiled -/

/-- One for an error. -/
def failure {α : Type} : Except Error α → Nat
  | .ok _ => 0
  | .error _ => 1

/-- One for a call at a stage at which it knows its error. -/
def failureAt : Stage Error (Shared Plan) → Nat
  | .running outcome => failure outcome
  | .release answer => failure answer
  | .done answer => failure answer
  | _ => 0

/-- One for a call that is bound to fail. -/
def callFailure : Call → Nat
  | .request _ => 0
  | .inside _ _ stage => failureAt stage
  | .cleanup _ _ _ => 1
  | .returned _ answer => failure answer

/-- The calls of a caller that have failed or are bound to. -/
def callerFailures (caller : Caller) : Nat :=
  (caller.call.map callFailure).getD 0 + (caller.finished.map fun call => failure call.2).sum

/-- The templates that cannot be compiled. -/
def logFailures (log : List Template) : Nat := (log.map fun t => failure t.compile).sum

theorem failure_map {α β : Type} (f : α → β) (x : Except Error α) :
    failure (x.map f) = failure x := by
  cases x <;> rfl

theorem failureAt_of_steps {cell cell' : OnceCell (Shared Plan)}
    {outcome : Except Error (Shared Plan)} {stage stage' : Stage Error (Shared Plan)}
    (h : cell.Steps index outcome stage cell' stage') :
    failureAt stage' = failureAt stage + if stage.starts stage' then failure outcome else 0 := by
  cases h with
  | start => exact (Nat.zero_add _).symm
  | _ => rfl

theorem callFailure_of_steps {cache cache' : Cache} {call call' : Call}
    (h : call.Steps index cache cache' call' started) :
    callFailure call' = callFailure call + logFailures started := by
  cases h with
  | @inside template place stage stage' cell' hdone hsteps =>
    rw [callFailure, callFailure, failureAt_of_steps hsteps, Cache.started, Cache.outcome,
      failure_map]
    split_ifs
    · simp [logFailures]
    · rfl
  | _ => rfl

theorem sum_map_set {callers : List Caller} {caller : Caller} (f : Caller → Nat) (new : Caller)
    (h : callers[index]? = some caller) :
    ((callers.set index new).map f).sum + f caller = (callers.map f).sum + f new := by
  induction callers generalizing index with
  | nil => cases h
  | cons first rest ih =>
    cases index with
    | zero =>
      obtain rfl := Option.some.inj h
      rw [List.set_cons_zero, List.map_cons, List.map_cons, List.sum_cons, List.sum_cons]
      omega
    | succ index =>
      have hrest := ih (show rest[index]? = some caller from h)
      rw [List.set_cons_succ, List.map_cons, List.map_cons, List.sum_cons, List.sum_cons]
      omega

/-- A step starts a compilation that fails exactly if one more call is bound to fail. -/
theorem Steps.sum_callerFailures (h : machine.Steps index machine' started) :
    (machine'.callers.map callerFailures).sum =
      (machine.callers.map callerFailures).sum + logFailures started := by
  cases h with
  | idle => rfl
  | @begin caller template todo hcaller hcall htodo =>
    have hsum := sum_map_set callerFailures
      { caller with call := some (.request template), todo } hcaller
    have hnew : callerFailures { caller with call := some (.request template), todo } =
        callerFailures caller := by
      rw [callerFailures, callerFailures, hcall]
      rfl
    rw [hnew] at hsum
    exact Nat.add_right_cancel hsum
  | @finish caller template answer hcaller hcall =>
    have hsum := sum_map_set callerFailures
      { caller with call := none, finished := (template, answer) :: caller.finished } hcaller
    have hnew : callerFailures
        { caller with call := none, finished := (template, answer) :: caller.finished } =
          callerFailures caller := by
      rw [callerFailures, callerFailures, hcall, List.map_cons, List.sum_cons]
      exact Nat.zero_add _
    rw [hnew] at hsum
    exact Nat.add_right_cancel hsum
  | @call caller call call' cache' started hcaller hcall hsteps =>
    have hsum := sum_map_set callerFailures { caller with call := some call' } hcaller
    have hnew : callerFailures { caller with call := some call' } =
        callerFailures caller + logFailures started := by
      rw [callerFailures, callerFailures, hcall, Option.map_some, Option.map_some,
        Option.getD_some, Option.getD_some, callFailure_of_steps hsteps]
      exact Nat.add_right_comm _ _ _
    rw [hnew] at hsum
    dsimp only
    omega

/-- **As many compilations fail** as calls have failed or are bound to. -/
theorem sum_callerFailures_of_reaches {requests : List (List Template)}
    (h : Reaches (start .empty requests) machine log) :
    (machine.callers.map callerFailures).sum = logFailures log := by
  induction h with
  | refl =>
    have hzero : ∀ n ∈ (start .empty requests).callers.map callerFailures, n = 0 := by
      intro n hn
      obtain ⟨caller, hcaller, rfl⟩ := List.mem_map.mp hn
      obtain ⟨todo, -, rfl⟩ := List.mem_map.mp hcaller
      rfl
    exact List.sum_eq_zero_iff_forall_eq_nat.mpr hzero
  | step _ hstep ih =>
    rw [hstep.sum_callerFailures, ih, logFailures, logFailures, logFailures, List.map_append,
      List.sum_append]

theorem compilations_of_reaches {requests : List (List Template)}
    (h : Reaches (start .empty requests) machine log) :
    machine.cache.compilations = log.length := by
  induction h with
  | refl => rfl
  | @step machine machine' log started index _ hstep ih =>
    have hadd : machine'.cache.compilations = machine.cache.compilations + started.length := by
      cases hstep with
      | call hcaller hcall hsteps =>
        cases hsteps with
        | cleaned =>
          unfold discard
          split_ifs <;> rfl
        | _ => rfl
      | _ => rfl
    rw [hadd, ih, List.length_append]

/-! ### Entries -/

/-- The call uses the cell of a template at a place, is about to take its entry out, or has got the
plan of the template. -/
def CallVouches (template : Template) (place : Nat) : Call → Prop
  | .request _ => False
  | .inside t p _ => t = template ∧ p = place
  | .cleanup t p _ => t = template ∧ p = place
  | .returned t (.ok _) => t = template
  | .returned _ (.error _) => False

/-- The call of a caller vouches for an entry, or a call did that has got the plan. -/
def Vouches (template : Template) (place : Nat) (caller : Caller) : Prop :=
  (∃ call, caller.call = some call ∧ CallVouches template place call) ∨
    ∃ shared, (template, .ok shared) ∈ caller.finished

/-- Some caller vouches for every entry. -/
def Vouched (entries : List (Template × Nat)) (callers : List Caller) : Prop :=
  ∀ template place, (template, place) ∈ entries →
    ∃ (index : Nat) (caller : Caller), callers[index]? = some caller ∧
      Vouches template place caller

theorem Vouched.set {entries entries' : List (Template × Nat)} {callers : List Caller}
    {caller new : Caller} (h : Vouched entries callers) (hcaller : callers[index]? = some caller)
    (hnew : ∀ template place, (template, place) ∈ entries' →
      (template, place) ∈ entries ∧ (Vouches template place caller → Vouches template place new) ∨
        Vouches template place new) :
    Vouched entries' (callers.set index new) := by
  intro template place hmem
  have hself := getElem?_set_caller hcaller new
  rcases hnew template place hmem with ⟨hold, hvouches⟩ | hvouches
  · obtain ⟨other, caller', hget, hcaller'⟩ := h template place hold
    by_cases heq : index = other
    · subst heq
      obtain rfl := Option.some.inj (hcaller.symm.trans hget)
      exact ⟨index, new, hself, hvouches hcaller'⟩
    · exact ⟨other, caller', (List.getElem?_set_ne heq).trans hget, hcaller'⟩
  · exact ⟨index, new, hself, hvouches⟩

/-- An entry that is to be taken out is gone. -/
theorem not_mem_discard (hsound : machine.cache.Sound log owners) {place : Nat} {e : Error}
    (howner : owners[place]? = some template) (hfails : template.compile = .error e) :
    (template, place) ∉ (machine.cache.discard template place).entries := by
  intro hmem
  have hold := mem_of_mem_discard hmem
  obtain ⟨cell, hcell⟩ := hsound.exists_cell howner
  have hvacant : machine.cache.isVacant place = true := by
    have hnone : cell.stored = none := by
      cases hstored : cell.stored with
      | none => rfl
      | some shared =>
        have hok := (hsound.holds _ _ _ howner hcell shared hstored).compile_eq_ok
        rw [hfails] at hok
        cases hok
    rw [isVacant, hcell, Option.any_some, OnceCell.isFull, hnone]
    rfl
  rw [discard, if_pos ⟨hsound.place?_of_mem hold, hvacant⟩] at hmem
  simpa using (List.mem_filter.mp hmem).2

theorem callVouches_of_steps (hsound : machine.cache.Sound log owners) {cache' : Cache}
    {call call' : Call} (hcall : call.Sound log owners machine.cache index)
    (h : call.Steps index machine.cache cache' call' started) {place : Nat}
    (hmem : (template, place) ∈ cache'.entries) :
    (template, place) ∈ machine.cache.entries ∧
        (CallVouches template place call → CallVouches template place call') ∨
      CallVouches template place call' := by
  cases h with
  | found => exact Or.inl ⟨hmem, fun h => h.elim⟩
  | made =>
    rcases List.mem_append.mp hmem with hmem | hmem
    · exact Or.inl ⟨hmem, fun h => h.elim⟩
    · obtain ⟨rfl, rfl⟩ := Prod.mk.inj (List.mem_singleton.mp hmem)
      exact Or.inr ⟨rfl, rfl⟩
  | inside => exact Or.inl ⟨hmem, fun h => h⟩
  | answered => exact Or.inl ⟨hmem, fun h => h.1⟩
  | failed => exact Or.inl ⟨hmem, fun h => h⟩
  | cleaned =>
    refine Or.inl ⟨mem_of_mem_discard hmem, ?_⟩
    rintro ⟨rfl, rfl⟩
    exact absurd hmem (not_mem_discard hsound hcall.1 hcall.2)

theorem Steps.vouched (hsound : machine.Sound log owners)
    (h : machine.Steps index machine' started)
    (hv : Vouched machine.cache.entries machine.callers) :
    Vouched machine'.cache.entries machine'.callers := by
  cases h with
  | idle => exact hv
  | @begin caller template todo hcaller hcall htodo =>
    refine hv.set hcaller fun t p hmem => Or.inl ⟨hmem, ?_⟩
    rintro (⟨call, hcall', -⟩ | hfinished)
    · rw [hcall] at hcall'
      cases hcall'
    · exact Or.inr hfinished
  | @finish caller template answer hcaller hcall =>
    refine hv.set hcaller fun t p hmem => Or.inl ⟨hmem, ?_⟩
    rintro (⟨call, hcall', hvouches⟩ | ⟨shared, hfinished⟩)
    · obtain rfl := Option.some.inj (hcall.symm.trans hcall')
      cases answer with
      | error e => exact hvouches.elim
      | ok shared =>
        obtain rfl : template = t := hvouches
        exact Or.inr ⟨shared, List.mem_cons_self⟩
    · exact Or.inr ⟨shared, List.mem_cons_of_mem _ hfinished⟩
  | @call caller call call' cache' started hcaller hcall hsteps =>
    have hknown := hsound.call index caller call hcaller hcall
    refine hv.set hcaller fun t p hmem => ?_
    rcases callVouches_of_steps hsound.cache hknown hsteps hmem with ⟨hold, hkeeps⟩ | hvouches
    · refine Or.inl ⟨hold, ?_⟩
      rintro (⟨call1, hcall1, hvouches⟩ | hfinished)
      · obtain rfl := Option.some.inj (hcall.symm.trans hcall1)
        exact Or.inl ⟨call', rfl, hkeeps hvouches⟩
      · exact Or.inr hfinished
    · exact Or.inr (Or.inl ⟨call', rfl, hvouches⟩)

theorem vouched_of_reaches {requests : List (List Template)}
    (h : Reaches (start .empty requests) machine log) :
    Vouched machine.cache.entries machine.callers := by
  refine holds_of_reaches (P := fun machine _ => Vouched machine.cache.entries machine.callers) ?_
    (fun hsound hstep hv => hstep.vouched hsound hv) h
  exact fun _ _ hmem => absurd hmem List.not_mem_nil

end NamedSql.Cache.Machine
