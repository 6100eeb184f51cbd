import Mathlib.Data.List.Perm.Basic
import Mathlib.Data.List.Count
import Mathlib.Data.List.Nodup
import NamedSql.Proofs.Progress

/-! # A shared cache compiles once and all callers agree

What the invariants of a machine say together (`compile_once`): for every interleaving of any
callers that ask an empty cache for any templates, a template that can be compiled is compiled once
at most and all its callers get the same plan; for a template that cannot, all of them get its
error; and when no call is in progress the cache holds what was asked for and can be compiled, and
the number of compilations is accounted for. -/

namespace NamedSql.Cache.Machine

variable {requests : List (List Template)} {machine : Machine} {log owners : List Template}
  {template : Template}

/-- The calls that have failed. -/
def failedCalls (machine : Machine) : Nat :=
  (machine.callers.map fun caller => (caller.finished.map fun call => failure call.2).sum).sum

/-- No call is in progress. -/
def Idle (machine : Machine) : Prop := ∀ caller ∈ machine.callers, caller.call = none

instance (machine : Machine) : Decidable machine.Idle := by unfold Idle; infer_instance

/-- Some call for the template is finished. -/
def Asked (machine : Machine) (template : Template) : Prop :=
  ∃ caller ∈ machine.callers, ∃ answer, (template, answer) ∈ caller.finished

theorem failure_eq_zero_iff : failure template.compile = 0 ↔ template.Compiles := by
  unfold Template.Compiles
  cases template.compile with
  | ok plan => exact ⟨fun _ => ⟨plan, rfl⟩, fun _ => rfl⟩
  | error e =>
    constructor
    · intro h
      cases h
    · rintro ⟨plan, h⟩
      cases h

/-! ### Answers -/

theorem Sound.answers (h : machine.Sound log owners) {caller : Caller}
    {answer : Except Error (Shared Plan)} (hcaller : caller ∈ machine.callers)
    (hmem : (template, answer) ∈ caller.finished) : machine.cache.Answers template answer := by
  obtain ⟨index, hget⟩ := List.mem_iff_getElem?.mp hcaller
  exact h.finished index caller hget template answer hmem

/-- All finished calls for a template that can be compiled have the same answer. -/
theorem exists_answer (h : machine.Sound log owners) {plan : Plan}
    (hplan : template.compile = .ok plan) :
    ∃ serial, ∀ caller ∈ machine.callers, ∀ answer, (template, answer) ∈ caller.finished →
      answer = .ok ⟨serial, plan⟩ := by
  by_cases hasked : machine.Asked template
  · obtain ⟨caller1, hcaller1, answer1, hmem1⟩ := hasked
    have hanswer1 := h.answers hcaller1 hmem1
    obtain ⟨serial1, rfl⟩ := hanswer1.exists_eq_ok hplan
    obtain ⟨-, place1, cell1, hentry1, hcell1, hstored1⟩ := hanswer1
    refine ⟨serial1, fun caller hcaller answer hmem => ?_⟩
    have hanswer := h.answers hcaller hmem
    obtain ⟨serial, rfl⟩ := hanswer.exists_eq_ok hplan
    obtain ⟨-, place, cell, hentry, hcell, hstored⟩ := hanswer
    -- both plans lie in the only cell that the template has
    obtain rfl := h.cache.eq_of_mem hentry hentry1
    obtain rfl := Option.some.inj (hcell.symm.trans hcell1)
    rw [Option.some.inj (hstored.symm.trans hstored1)]
  · exact ⟨0, fun caller hcaller answer hmem => absurd ⟨caller, hcaller, answer, hmem⟩ hasked⟩

/-- The entry of a template that can be compiled stays. -/
theorem mem_entries_run (h : Reaches (start .empty requests) machine log)
    (hcompiles : template.Compiles) {place : Nat} (hmem : (template, place) ∈ machine.cache.entries)
    (schedule : List Nat) : (template, place) ∈ (machine.run schedule).cache.entries := by
  induction schedule generalizing machine log with
  | nil => exact hmem
  | cons index schedule ih =>
    obtain ⟨owners, hsound⟩ := sound_of_reaches h
    have hstep := steps_step machine index
    obtain ⟨owners', hevolves⟩ := hstep.evolves hsound
    exact ih (h.step hstep) (hevolves.entry _ _ hmem hcompiles)

/-! ### No call in progress -/

/-- An entry is there because some call got the plan. -/
theorem exists_of_mem_entries (h : Reaches (start .empty requests) machine log)
    (hsound : machine.Sound log owners) (hidle : machine.Idle) {place : Nat}
    (hmem : (template, place) ∈ machine.cache.entries) :
    machine.Asked template ∧ ∃ cell shared, machine.cache.cells[place]? = some cell ∧
      cell.stored = some shared ∧ template.compile = .ok shared.value := by
  obtain ⟨index, caller, hget, hvouches⟩ := vouched_of_reaches h template place hmem
  have hcaller := List.mem_of_getElem? hget
  rcases hvouches with ⟨call, hcall, -⟩ | ⟨shared, hfinished⟩
  · rw [hidle caller hcaller] at hcall
    cases hcall
  · obtain ⟨hcompile, place', cell, hentry, hcell, hstored⟩ := hsound.answers hcaller hfinished
    obtain rfl := hsound.cache.eq_of_mem hmem hentry
    exact ⟨⟨caller, hcaller, _, hfinished⟩, cell, shared, hcell, hstored, hcompile⟩

/-- The cache holds the templates that were asked for and can be compiled. -/
theorem mem_keys_iff (h : Reaches (start .empty requests) machine log)
    (hsound : machine.Sound log owners) (hidle : machine.Idle) :
    template ∈ machine.cache.entries.map (·.1) ↔ template.Compiles ∧ machine.Asked template := by
  constructor
  · intro hmem
    obtain ⟨⟨_, place⟩, hentry, rfl⟩ := List.mem_map.mp hmem
    obtain ⟨hasked, cell, shared, -, -, hcompile⟩ := exists_of_mem_entries h hsound hidle hentry
    exact ⟨⟨_, hcompile⟩, hasked⟩
  · rintro ⟨⟨plan, hplan⟩, caller, hcaller, answer, hmem⟩
    have hanswer := hsound.answers hcaller hmem
    obtain ⟨serial, rfl⟩ := hanswer.exists_eq_ok hplan
    obtain ⟨-, place, cell, hentry, -⟩ := hanswer
    exact List.mem_map_of_mem hentry

/-- The cache holds the templates whose compilation was started and does not fail. -/
theorem mem_keys_iff_mem_log (h : Reaches (start .empty requests) machine log)
    (hsound : machine.Sound log owners) (hidle : machine.Idle) :
    template ∈ machine.cache.entries.map (·.1) ↔ template ∈ log ∧ template.Compiles := by
  constructor
  · intro hmem
    obtain ⟨⟨_, place⟩, hentry, rfl⟩ := List.mem_map.mp hmem
    obtain ⟨-, cell, shared, hcell, hstored, hcompile⟩ :=
      exists_of_mem_entries h hsound hidle hentry
    have howner := hsound.cache.entry _ _ hentry
    exact ⟨(hsound.cache.holds _ _ _ howner hcell shared hstored).1, _, hcompile⟩
  · rintro ⟨hmem, hcompiles⟩
    obtain ⟨place, hentry, -⟩ := (once_of_reaches h).makes template hcompiles hmem
    exact List.mem_map_of_mem hentry

theorem length_eq_filter_add_logFailures (log : List Template) :
    log.length = (log.filter fun t => failure t.compile = 0).length + logFailures log := by
  induction log with
  | nil => rfl
  | cons t log ih =>
    have hcons : logFailures (t :: log) = failure t.compile + logFailures log := by
      rw [logFailures, List.map_cons, List.sum_cons, logFailures]
    rw [List.length_cons, hcons, List.filter_cons]
    cases t.compile with
    | ok plan =>
      rw [if_pos (by rfl), List.length_cons, failure]
      omega
    | error e =>
      have hne : ¬decide (failure (Except.error e : Except Error Plan) = 0) = true := by
        simp [failure]
      rw [if_neg hne, failure]
      omega

/-- Each compilation has made an entry or failed. -/
theorem compilations_eq (h : Reaches (start .empty requests) machine log)
    (hsound : machine.Sound log owners) (hidle : machine.Idle) :
    machine.cache.compilations = machine.cache.size + machine.failedCalls := by
  have hcount := (once_of_reaches h).count
  have hnodup : (log.filter fun t => failure t.compile = 0).Nodup := by
    refine List.nodup_iff_count_le_one.mpr fun t => ?_
    by_cases hcompiles : t.Compiles
    · exact Nat.le_trans (List.filter_sublist.count_le t) (hcount t hcompiles)
    · rw [List.count_eq_zero.mpr fun hmem => ?_]
      · exact Nat.zero_le 1
      · exact hcompiles (failure_eq_zero_iff.mp (by simpa using (List.mem_filter.mp hmem).2))
  have hperm : (log.filter fun t => failure t.compile = 0).Perm
      (machine.cache.entries.map (·.1)) := by
    refine (List.perm_ext_iff_of_nodup hnodup hsound.cache.nodup).mpr fun t => ?_
    rw [mem_keys_iff_mem_log h hsound hidle, List.mem_filter, ← failure_eq_zero_iff,
      decide_eq_true_iff]
  have hsize : (log.filter fun t => failure t.compile = 0).length = machine.cache.size := by
    rw [hperm.length_eq, List.length_map]
    rfl
  have hfailed : machine.failedCalls = logFailures log := by
    rw [← sum_callerFailures_of_reaches h, failedCalls]
    refine congrArg List.sum (List.map_congr_left fun caller hcaller => ?_)
    rw [callerFailures, hidle caller hcaller]
    exact (Nat.zero_add _).symm
  rw [compilations_of_reaches h, length_eq_filter_add_logFailures, hsize, hfailed]

/-! ### All together -/

/-- **A shared cache compiles once**, in whatever order any callers take their steps. A template
that can be compiled is compiled once at most, its entry is never taken out, and all finished calls
for it have the same plan, the one that it compiles to. A template that cannot be compiled answers
every finished call with its error. When no call is in progress, the cache holds, each of them once
and with its plan, the templates that were asked for and can be compiled, and there were as many
compilations as it holds templates and calls have failed. The calls of each caller are its requests,
in their order, and whatever the callers have done, they can come to an end. -/
theorem compile_once (requests : List (List Template)) (schedule : List Nat) :
    let machine := (start .empty requests).run schedule
    let log := (start .empty requests).log schedule
    (∀ template plan, template.compile = .ok plan →
      log.count template ≤ 1 ∧
      (∀ place, (template, place) ∈ machine.cache.entries →
        ∀ later, (template, place) ∈ (machine.run later).cache.entries) ∧
      ∃ serial, ∀ caller ∈ machine.callers, ∀ answer, (template, answer) ∈ caller.finished →
        answer = .ok ⟨serial, plan⟩) ∧
    (∀ template e, template.compile = .error e →
      ∀ caller ∈ machine.callers, ∀ answer, (template, answer) ∈ caller.finished →
        answer = .error e) ∧
    (machine.Idle →
      (machine.cache.entries.map (·.1)).Nodup ∧
      (∀ template, template ∈ machine.cache.entries.map (·.1) ↔
        template.Compiles ∧ machine.Asked template) ∧
      (∀ template place, (template, place) ∈ machine.cache.entries →
        ∃ cell shared, machine.cache.cells[place]? = some cell ∧ cell.stored = some shared ∧
          template.compile = .ok shared.value) ∧
      machine.cache.compilations = machine.cache.size + machine.failedCalls) ∧
    machine.cache.compilations = log.length ∧
    machine.callers.map callerTemplates = requests ∧
    ∃ later, ∀ caller ∈ (machine.run later).callers, Caller.Finished caller := by
  intro machine log
  have h : Reaches (start .empty requests) machine log := reaches_run _ schedule
  obtain ⟨owners, hsound⟩ := sound_of_reaches h
  refine ⟨?_, ?_, ?_, compilations_of_reaches h, map_callerTemplates_of_reaches h,
    exists_finished h⟩
  · intro template plan hplan
    exact ⟨(once_of_reaches h).count template ⟨plan, hplan⟩,
      fun place hmem later => mem_entries_run h ⟨plan, hplan⟩ hmem later,
      exists_answer hsound hplan⟩
  · intro template e hfails caller hcaller answer hmem
    exact (hsound.answers hcaller hmem).eq_error hfails
  · intro hidle
    exact ⟨hsound.cache.nodup, fun _ => mem_keys_iff h hsound hidle,
      fun _ _ hmem => (exists_of_mem_entries h hsound hidle hmem).2,
      compilations_eq h hsound hidle⟩

/-- Two callers that ask for one template at the same time, and one of them for a template that
cannot be compiled. -/
theorem compile_once_two_callers :
    ((start .empty [[.ofText ":a".toList], [.ofText ":a".toList,
        (Template.ofText ":a".toList).withCapacity "b".toList 1]]).run (inTurn 2 25)).Idle ∧
      ((start .empty [[.ofText ":a".toList], [.ofText ":a".toList,
        (Template.ofText ":a".toList).withCapacity "b".toList 1]]).run
          (inTurn 2 25)).cache.compilations = 1 + 1 := by
  have hidle : ((start .empty [[.ofText ":a".toList], [.ofText ":a".toList,
      (Template.ofText ":a".toList).withCapacity "b".toList 1]]).run (inTurn 2 25)).Idle := by
    decide +kernel
  refine ⟨hidle, ((compile_once _ _).2.2.1 hidle).2.2.2.trans ?_⟩
  decide +kernel

end NamedSql.Cache.Machine
