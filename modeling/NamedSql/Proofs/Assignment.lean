import NamedSql.Lazy.Machine
import NamedSql.Proofs.Cell

/-! # A lazy plan is made once

One step of a machine starts a computation or takes its caller to the next stage without one
(`Machine.Steps`). What a caller knows (`Caller.Sound`) is what it relies on while it uses the cell,
that the plans it was told are the one that is stored, and that its errors are those of its own
computations, call by call. A machine is sound (`Machine.Sound`) if its callers are, if a
computation that succeeds is the last one that was started and its plan is stored or still in the
hands of the caller that has the lock, and if no call has started two of them. Each step keeps this, so it holds
in every run from the start (`Machine.sound_run`). -/

namespace NamedSql

namespace OnceCell

variable {ε α : Type}

/-! ### What a call has come to -/

/-- The error that a call has come to. -/
def Stage.error? : Stage ε α → Option ε
  | .running (.error e) => some e
  | .release (.error e) => some e
  | .done (.error e) => some e
  | _ => none

/-- The call has a value of its own and has not stored it yet. -/
def Stage.Brings (stage : Stage ε α) (value : α) : Prop :=
  stage = .running (.ok value) ∨ stage = .store value

variable {caller : Nat} {outcome : Except ε α} {good : Except ε α → Prop} {cell cell' : OnceCell α}
  {stage stage' : Stage ε α}

theorem eq_empty (hstored : cell.stored = none) (hfree : cell.holder = none) : cell = .empty := by
  obtain ⟨stored, holder⟩ := cell
  obtain rfl : stored = none := hstored
  obtain rfl : holder = none := hfree
  rfl

/-- A computation is started on an empty cell. -/
theorem Steps.of_starts (hstarts : stage.starts stage' = true)
    (h : Steps caller outcome cell stage cell' stage') :
    stage = .lookAgain ∧ stage' = .running outcome ∧ cell.stored = none ∧ cell' = cell := by
  cases h with
  | start hempty => exact ⟨rfl, rfl, hempty, rfl⟩
  | _ => cases hstarts

/-- A step that starts no computation keeps the error. -/
theorem Steps.error?_eq (hstarts : stage.starts stage' = false)
    (h : Steps caller outcome cell stage cell' stage') : stage'.error? = stage.error? := by
  cases h with
  | start => cases hstarts
  | @unlock answer => cases answer <;> rfl
  | _ => rfl

theorem Steps.rank_le (h : Steps caller outcome cell stage cell' stage') :
    stage'.rank ≤ stage.rank := by
  cases h <;> simp [Stage.rank]

/-- A call that comes to give the lock back with an error has stored nothing. -/
theorem Steps.stored_of_release {e : ε} (hsound : stage.Sound caller good cell)
    (h : Steps caller outcome cell stage cell' (.release (.error e))) : cell'.stored = none := by
  cases h with
  | failed => exact hsound.2.1

theorem Stage.Sound.of_brings {value : α} (hsound : stage.Sound caller good cell)
    (h : stage.Brings value) : cell.holder = some caller ∧ cell.stored = none := by
  rcases h with rfl | rfl
  · exact ⟨hsound.1, hsound.2.1⟩
  · exact ⟨hsound.1, hsound.2.1⟩

/-- A value is brought until it is stored. -/
theorem Steps.brings {value : α} (hsound : stage.Sound caller good cell)
    (hbrings : stage.Brings value) (h : Steps caller outcome cell stage cell' stage') :
    stage'.Brings value ∨ cell'.stored = some value := by
  obtain ⟨-, hempty⟩ := hsound.of_brings hbrings
  rcases hbrings with rfl | rfl
  · cases h with
    | made => exact Or.inl (Or.inr rfl)
  · cases h with
    | store => exact Or.inr rfl
    | keep hstored =>
      rw [hempty] at hstored
      cases hstored

end OnceCell

namespace Lazy

open OnceCell (Stage)

/-! ### Steps -/

namespace Machine

/-- The steps of one caller of a machine. -/
inductive Steps (machine : Machine) (turn : Turn) : Machine → Prop
  | idle (h : machine.callers[turn.caller]? = none) : Steps machine turn machine
  | start {caller : Caller} (hcaller : machine.callers[turn.caller]? = some caller)
      (hstage : caller.stage = .lookAgain) (hempty : machine.cell.stored = none) :
      Steps machine turn
        { machine with
          runs := machine.runs ++
            [⟨turn.caller, caller.answers.length, turn.compile machine.template⟩]
          callers := machine.callers.set turn.caller
            { caller with
              stage := .running
                ((turn.compile machine.template).map (Shared.mk machine.runs.length)) } }
  | advance {caller : Caller} {outcome : Except Error (Shared Plan)}
      {cell' : OnceCell (Shared Plan)} {stage' : Stage Error (Shared Plan)}
      (hcaller : machine.callers[turn.caller]? = some caller)
      (hstarts : caller.stage.starts stage' = false)
      (h : machine.cell.Steps turn.caller outcome caller.stage cell' stage') :
      Steps machine turn
        { machine with
          cell := cell'
          callers := machine.callers.set turn.caller (caller.advance stage') }

theorem steps_step (machine : Machine) (turn : Turn) : machine.Steps turn (machine.step turn) := by
  unfold step
  cases hcaller : machine.callers[turn.caller]? with
  | none => exact .idle hcaller
  | some caller =>
    have hsteps := OnceCell.steps_step turn.caller
      ((turn.compile machine.template).map (Shared.mk machine.runs.length)) machine.cell
      caller.stage
    dsimp only
    generalize machine.cell.step turn.caller _ caller.stage = after at hsteps ⊢
    obtain ⟨cell', stage'⟩ := after
    by_cases hstarts : caller.stage.starts stage' = true
    · obtain ⟨hstage, rfl, hempty, rfl⟩ := hsteps.of_starts hstarts
      rw [if_pos hstarts]
      exact .start hcaller hstage hempty
    · rw [if_neg hstarts]
      exact .advance hcaller (by simpa using hstarts) hsteps

end Machine

/-! ### What there is to know -/

/-- The outcome is that of a computation that was started, with its place. -/
def Made (runs : List Run) (outcome : Except Error (Shared Plan)) : Prop :=
  ∃ (serial : Nat) (run : Run), runs[serial]? = some run ∧
    outcome = run.outcome.map (Shared.mk serial)

/-- The errors of the calls of a caller, the one in progress included. -/
def Caller.errors (caller : Caller) : List (Option Error) :=
  (caller.answers.map fun answer => (Stage.done answer).error?) ++ [caller.stage.error?]

/-- What a caller knows. -/
structure Caller.Sound (runs : List Run) (cell : OnceCell (Shared Plan)) (index : Nat)
    (caller : Caller) : Prop where
  stage : caller.stage.Sound index (Made runs) cell
  /-- A call that failed leaves the cell empty. -/
  vacant : ∀ e, caller.stage = .release (.error e) → cell.stored = none
  stored : ∀ shared, .ok shared ∈ caller.answers → cell.stored = some shared
  /-- A computation is that of a finished call, or of the one in progress if that has looked. -/
  calls : ∀ run ∈ runs, run.caller = index →
    run.call < caller.answers.length ∨ run.call = caller.answers.length ∧ caller.stage.rank ≤ 4
  errors : ∀ k e, caller.errors[k]? = some (some e) ↔ ⟨index, k, .error e⟩ ∈ runs

/-- What is known of a machine. -/
structure Machine.Sound (machine : Machine) : Prop where
  caller : ∀ (index : Nat) (caller : Caller), machine.callers[index]? = some caller →
    caller.Sound machine.runs machine.cell index
  holds : machine.cell.Holds (Made machine.runs)
  /-- A computation that succeeds is the last one, and its plan is stored or about to be. -/
  success : ∀ (serial : Nat) (run : Run) (plan : Plan), machine.runs[serial]? = some run →
    run.outcome = .ok plan → serial + 1 = machine.runs.length ∧
      (machine.cell.stored = some ⟨serial, plan⟩ ∨ ∃ (index : Nat) (caller : Caller),
        machine.callers[index]? = some caller ∧ caller.stage.Brings ⟨serial, plan⟩)
  once : (machine.runs.map fun run => (run.caller, run.call)).Nodup

theorem getElem?_concat_eq_some_iff {γ : Type} {l : List γ} {a b : γ} {k : Nat} :
    (l ++ [a])[k]? = some b ↔ l[k]? = some b ∨ k = l.length ∧ a = b := by
  constructor
  · intro h
    rw [List.getElem?_append] at h
    split at h
    · exact Or.inl h
    · obtain ⟨hlt, rfl⟩ := List.getElem?_eq_some_iff.mp h
      rw [List.length_singleton] at hlt
      exact Or.inr ⟨by omega, by simp⟩
  · rintro (h | ⟨rfl, rfl⟩)
    · rw [List.getElem?_append_left (List.getElem?_eq_some_iff.mp h).1, h]
    · exact List.getElem?_concat_length

/-! ### Callers -/

section

variable {runs : List Run} {cell cell' : OnceCell (Shared Plan)} {index other : Nat}
  {caller : Caller} {stage' : Stage Error (Shared Plan)}

theorem Made.concat (new : Run) (outcome : Except Error (Shared Plan)) (h : Made runs outcome) :
    Made (runs ++ [new]) outcome := by
  obtain ⟨serial, run, hrun, houtcome⟩ := h
  exact ⟨serial, run, getElem?_concat_eq_some_iff.mpr (Or.inl hrun), houtcome⟩

/-- The errors of a caller that comes to a stage. -/
theorem Caller.getElem?_errors_advance (caller : Caller) (stage' : Stage Error (Shared Plan))
    {k : Nat} {e : Error} : (caller.advance stage').errors[k]? = some (some e) ↔
      ({ caller with stage := stage' } : Caller).errors[k]? = some (some e) := by
  cases stage' with
  | done answer =>
    rw [advance, errors, List.map_append, getElem?_concat_eq_some_iff]
    refine or_iff_left ?_
    rintro ⟨-, hnone⟩
    cases hnone
  | _ => rfl

theorem Caller.getElem?_errors (caller : Caller) {call : Nat} (h : call < caller.answers.length)
    {e : Error} :
    caller.errors[call]? = some (some e) ↔ caller.answers[call]? = some (.error e) := by
  rw [errors, List.getElem?_append_left (by simpa using h), List.getElem?_map,
    List.getElem?_eq_getElem h]
  cases caller.answers[call] <;> simp [Stage.error?]

/-- A step keeps what its caller knows. -/
theorem Caller.Sound.advance {outcome : Except Error (Shared Plan)}
    (h : caller.Sound runs cell index) (hstarts : caller.stage.starts stage' = false)
    (hsteps : cell.Steps index outcome caller.stage cell' stage') :
    (caller.advance stage').Sound runs cell' index := by
  have hstage : stage'.Sound index (Made runs) cell' :=
    hsteps.sound (fun hs => by rw [hstarts] at hs; cases hs) h.stage
  have hstored : ∀ shared, .ok shared ∈ caller.answers → cell'.stored = some shared :=
    fun shared hmem => (hsteps.evolves h.stage).stored shared (h.stored shared hmem)
  have herrors : ∀ k e, (caller.advance stage').errors[k]? = some (some e) ↔
      ⟨index, k, .error e⟩ ∈ runs := by
    intro k e
    rw [Caller.getElem?_errors_advance, Caller.errors, hsteps.error?_eq hstarts]
    exact h.errors k e
  by_cases hdone : ∃ answer, stage' = .done answer
  · obtain ⟨answer, rfl⟩ := hdone
    refine ⟨trivial, fun e he => (by cases he), fun shared hmem => ?_, fun run hrun hcaller => ?_,
      herrors⟩
    · rcases List.mem_append.mp hmem with hmem | hmem
      · exact hstored shared hmem
      · obtain rfl := List.mem_singleton.mp hmem
        exact hstage
    · have hcall := h.calls run hrun hcaller
      rw [Caller.advance, List.length_append, List.length_singleton]
      dsimp only
      omega
  · have hadvance : caller.advance stage' = { caller with stage := stage' } := by
      cases stage' with
      | done answer => exact absurd ⟨answer, rfl⟩ hdone
      | _ => rfl
    rw [hadvance] at herrors ⊢
    refine ⟨hstage, ?_, hstored, fun run hrun hcaller => ?_, herrors⟩
    · rintro e rfl
      exact hsteps.stored_of_release h.stage
    · have hcall := h.calls run hrun hcaller
      have hrank := hsteps.rank_le
      dsimp only
      omega

/-- A caller that starts a computation knows of it. -/
theorem Caller.Sound.start {outcome : Except Error Plan} (h : caller.Sound runs cell index)
    (hstage : caller.stage = .lookAgain) (hempty : cell.stored = none) :
    ({ caller with stage := .running (outcome.map (Shared.mk runs.length)) } : Caller).Sound
      (runs ++ [⟨index, caller.answers.length, outcome⟩]) cell index := by
  have hholder : cell.holder = some index := h.stage.holder (by rw [hstage]; trivial)
  refine ⟨⟨hholder, hempty, runs.length, _, List.getElem?_concat_length, rfl⟩,
    fun e he => (by cases he), h.stored, fun run hrun hcaller => ?_, fun k e => ?_⟩
  · rcases List.mem_append.mp hrun with hrun | hrun
    · -- the call has not started one before
      have hcall := h.calls run hrun hcaller
      rw [hstage] at hcall
      rcases hcall with hlt | ⟨-, hrank⟩
      · exact Or.inl hlt
      · exact absurd hrank (by decide)
    · obtain rfl := List.mem_singleton.mp hrun
      exact Or.inr ⟨rfl, Nat.le_refl 4⟩
  · have hold := h.errors k e
    have hlook : (Stage.lookAgain : Stage Error (Shared Plan)).error? ≠ some e := fun he => by
      cases he
    have hnew : (Stage.running (outcome.map (Shared.mk runs.length))).error? = some e ↔
        outcome = .error e := by
      cases outcome <;> simp [Except.map, Stage.error?]
    have hrun : (⟨index, k, .error e⟩ : Run) = ⟨index, caller.answers.length, outcome⟩ ↔
        k = caller.answers.length ∧ outcome = .error e := by
      simp [eq_comm]
    rw [Caller.errors, hstage, getElem?_concat_eq_some_iff] at hold
    rw [Caller.errors, getElem?_concat_eq_some_iff, List.mem_append, ← hold, List.mem_singleton,
      hnew, hrun, List.length_map]
    simp only [hlook, and_false, or_false]

/-- What a caller knows is kept by a step of another one. -/
theorem Caller.Sound.of_evolves (h : caller.Sound runs cell other) (hne : other ≠ index)
    (hevolves : cell.Evolves index cell') : caller.Sound runs cell' other where
  stage := h.stage.of_evolves hne hevolves
  vacant e he := by
    -- the caller has the lock
    rw [hevolves.locked other hne (h.stage.holder (by rw [he]; trivial))]
    exact h.vacant e he
  stored shared hmem := hevolves.stored shared (h.stored shared hmem)
  calls := h.calls
  errors := h.errors

/-- What a caller knows is kept when another one starts a computation. -/
theorem Caller.Sound.concat (h : caller.Sound runs cell other) {new : Run}
    (hne : new.caller ≠ other) : caller.Sound (runs ++ [new]) cell other where
  stage := h.stage.mono (Made.concat new)
  vacant := h.vacant
  stored := h.stored
  calls run hrun hcaller := by
    rcases List.mem_append.mp hrun with hrun | hrun
    · exact h.calls run hrun hcaller
    · obtain rfl := List.mem_singleton.mp hrun
      exact absurd hcaller hne
  errors k e := by
    rw [h.errors, List.mem_append, List.mem_singleton]
    refine (or_iff_left ?_).symm
    rintro rfl
    exact hne rfl

end

/-! ### Machines -/

namespace Machine

variable {machine machine' : Machine} {turn : Turn}

theorem sound_start (template : Template) (callers : Nat) : (start template callers).Sound where
  caller index caller hcaller := by
    obtain rfl := List.eq_of_mem_replicate (List.mem_of_getElem? hcaller)
    refine ⟨trivial, fun e he => (by cases he), fun shared hmem => absurd hmem List.not_mem_nil,
      fun run hrun => absurd hrun List.not_mem_nil, fun k e => ?_⟩
    refine iff_of_false (fun h => ?_) List.not_mem_nil
    rcases getElem?_concat_eq_some_iff.mp h with h | ⟨-, h⟩ <;> cases h
  holds value hvalue := by cases hvalue
  success serial run plan hrun := by cases hrun
  once := List.nodup_nil

/-- A caller that has a value of its own is the one that has the lock. -/
theorem Sound.eq_of_brings (h : machine.Sound) {index other : Nat} {caller : Caller}
    (hcaller : machine.callers[index]? = some caller) {shared : Shared Plan}
    (hbrings : caller.stage.Brings shared) (hholder : machine.cell.holder = some other) :
    index = other := by
  have hmine := ((h.caller index caller hcaller).stage.of_brings hbrings).1
  exact Option.some.inj (hmine.symm.trans hholder)

/-- A computation is only started if none has succeeded. -/
theorem Sound.error_of_lookAgain (h : machine.Sound) {index : Nat} {caller : Caller}
    (hcaller : machine.callers[index]? = some caller) (hstage : caller.stage = .lookAgain)
    (hempty : machine.cell.stored = none) {serial : Nat} {run : Run} {plan : Plan}
    (hrun : machine.runs[serial]? = some run) : run.outcome ≠ .ok plan := by
  intro hok
  have hholder : machine.cell.holder = some index :=
    (h.caller index caller hcaller).stage.holder (by rw [hstage]; trivial)
  obtain ⟨-, hstored | ⟨other, caller', hcaller', hbrings⟩⟩ := h.success serial run plan hrun hok
  · rw [hempty] at hstored
    cases hstored
  · obtain rfl := h.eq_of_brings hcaller' hbrings hholder
    obtain rfl := Option.some.inj (hcaller.symm.trans hcaller')
    rw [hstage] at hbrings
    rcases hbrings with h | h <;> cases h

/-- A call that is about to start a computation has not started one. -/
theorem Sound.not_mem_of_lookAgain (h : machine.Sound) {index : Nat} {caller : Caller}
    (hcaller : machine.callers[index]? = some caller) (hstage : caller.stage = .lookAgain) :
    (index, caller.answers.length) ∉ machine.runs.map fun run => (run.caller, run.call) := by
  intro hmem
  obtain ⟨run, hrun, heq⟩ := List.mem_map.mp hmem
  obtain ⟨hrcaller, hrcall⟩ := Prod.mk.inj heq
  have hcall := (h.caller index caller hcaller).calls run hrun hrcaller
  rw [hstage] at hcall
  have hrank : (Stage.lookAgain : Stage Error (Shared Plan)).rank = 5 := rfl
  omega

/-- **A step keeps a machine sound.** -/
theorem Steps.sound (hsound : machine.Sound) (h : machine.Steps turn machine') :
    machine'.Sound := by
  cases h with
  | idle => exact hsound
  | @start caller hcaller hstage hempty =>
    refine ⟨fun index caller' hcaller' => ?_, fun value hvalue => ?_,
      fun serial run plan hrun hok => ?_, ?_⟩
    · rcases getElem?_set_eq_some hcaller' with ⟨rfl, rfl⟩ | ⟨hne, hcaller'⟩
      · exact (hsound.caller _ caller hcaller).start hstage hempty
      · exact (hsound.caller index caller' hcaller').concat hne.symm
    · exact (hsound.holds value hvalue).concat _
    · rcases getElem?_concat_eq_some_iff.mp hrun with hrun | ⟨rfl, rfl⟩
      · exact absurd hok (hsound.error_of_lookAgain hcaller hstage hempty hrun)
      · refine ⟨by rw [List.length_append]; rfl, Or.inr ⟨turn.caller, _,
          List.getElem?_set_self (List.getElem?_eq_some_iff.mp hcaller).1, Or.inl ?_⟩⟩
        dsimp only at hok ⊢
        rw [hok]
        rfl
    · rw [List.map_append, List.nodup_append]
      refine ⟨hsound.once, by simp, fun pair hpair new hnew => ?_⟩
      obtain rfl := List.mem_singleton.mp hnew
      rintro rfl
      exact hsound.not_mem_of_lookAgain hcaller hstage hpair
  | @advance caller outcome cell' stage' hcaller hstarts hsteps =>
    have hknows := hsound.caller turn.caller caller hcaller
    have hevolves := hsteps.evolves hknows.stage
    refine ⟨fun index caller' hcaller' => ?_, hsteps.holds hsound.holds hknows.stage,
      fun serial run plan hrun hok => ?_, hsound.once⟩
    · rcases getElem?_set_eq_some hcaller' with ⟨rfl, rfl⟩ | ⟨hne, hcaller'⟩
      · exact hknows.advance hstarts hsteps
      · exact (hsound.caller index caller' hcaller').of_evolves hne hevolves
    · obtain ⟨hlast, hplan⟩ := hsound.success serial run plan hrun hok
      refine ⟨hlast, ?_⟩
      rcases hplan with hstored | ⟨index, caller', hcaller', hbrings⟩
      · exact Or.inl (hevolves.stored _ hstored)
      · by_cases hindex : index = turn.caller
        · -- its own caller brings it on or stores it
          subst hindex
          obtain rfl := Option.some.inj (hcaller.symm.trans hcaller')
          rcases hsteps.brings hknows.stage hbrings with hbrings | hstored
          · refine Or.inr ⟨turn.caller, _,
              List.getElem?_set_self (List.getElem?_eq_some_iff.mp hcaller).1, ?_⟩
            rcases hbrings with rfl | rfl
            · exact Or.inl rfl
            · exact Or.inr rfl
          · exact Or.inl hstored
        · refine Or.inr ⟨index, caller', ?_, hbrings⟩
          exact (List.getElem?_set_ne (Ne.symm hindex)).trans hcaller'

/-- **A machine is sound after every run.** -/
theorem Sound.run (h : machine.Sound) (schedule : List Turn) : (machine.run schedule).Sound := by
  induction schedule generalizing machine with
  | nil => exact h
  | cons turn schedule ih => exact ih ((steps_step machine turn).sound h)

theorem sound_run (template : Template) (callers : Nat) (schedule : List Turn) :
    ((start template callers).run schedule).Sound :=
  (sound_start template callers).run schedule

/-! ### Along a run -/

/-- The caller runs a computation. -/
def Runs (machine : Machine) (index : Nat) : Prop :=
  ∃ (caller : Caller) (outcome : Except Error (Shared Plan)),
    machine.callers[index]? = some caller ∧ caller.stage = .running outcome

/-- A caller that runs a computation is the one that has the lock. -/
theorem Sound.holder_of_runs (h : machine.Sound) {index : Nat} (hruns : machine.Runs index) :
    machine.cell.holder = some index := by
  obtain ⟨caller, outcome, hcaller, hstage⟩ := hruns
  exact (h.caller index caller hcaller).stage.holder (by rw [hstage]; trivial)

theorem Steps.template_eq (h : machine.Steps turn machine') :
    machine'.template = machine.template := by
  cases h <;> rfl

theorem Steps.stored (hsound : machine.Sound) (h : machine.Steps turn machine')
    {shared : Shared Plan} (hstored : machine.cell.stored = some shared) :
    machine'.cell.stored = some shared := by
  cases h with
  | idle => exact hstored
  | start => exact hstored
  | advance hcaller _ hsteps =>
    exact (hsteps.evolves (hsound.caller _ _ hcaller).stage).stored shared hstored

/-- A plan that is stored stays, and so does the template. -/
theorem Sound.run_stored (h : machine.Sound) (schedule : List Turn) :
    (machine.run schedule).template = machine.template ∧ ∀ shared,
      machine.cell.stored = some shared → (machine.run schedule).cell.stored = some shared := by
  induction schedule generalizing machine with
  | nil => exact ⟨rfl, fun _ hstored => hstored⟩
  | cons turn schedule ih =>
    have hsteps := steps_step machine turn
    obtain ⟨htemplate, hlater⟩ := ih (hsteps.sound h)
    exact ⟨htemplate.trans hsteps.template_eq,
      fun shared hstored => hlater shared (hsteps.stored h hstored)⟩

/-- A call that gives the lock back with an error leaves the cell empty. -/
theorem Sound.step_of_release (h : machine.Sound) {caller : Caller} {e : Error}
    (hcaller : machine.callers[turn.caller]? = some caller)
    (hstage : caller.stage = .release (.error e)) :
    machine.cell.stored = none ∧ (machine.step turn).template = machine.template ∧
      (machine.step turn).cell = .empty := by
  have hempty := (h.caller _ caller hcaller).vacant e hstage
  refine ⟨hempty, (steps_step machine turn).template_eq, ?_⟩
  unfold step
  rw [hcaller]
  dsimp only
  rw [hstage, OnceCell.step, hempty]
  rfl

/-- **A lazy plan is assigned once**, whatever its computations answer and in whichever order the
callers take their steps. No two computations run at the same time, none is started after one that
succeeds, and every plan that a caller is told is the one that is stored, made by that one. A plan
that is stored stays, and a call that gives the lock back with an error leaves all as it was when
the lock was last free, or at any time before. A call starts at most one computation, and is told an
error exactly if that is what its computation answered. -/
theorem single_assignment (template : Template) (callers : Nat) (schedule : List Turn) :
    let machine := (start template callers).run schedule
    (∀ index other, machine.Runs index → machine.Runs other → index = other) ∧
    (∀ earlier run later plan, machine.runs = earlier ++ run :: later → run.outcome = .ok plan →
      later = []) ∧
    (∀ caller ∈ machine.callers, ∀ shared, .ok shared ∈ caller.answers →
      machine.cell.stored = some shared ∧
        ∃ run, machine.runs[shared.serial]? = some run ∧ run.outcome = .ok shared.value) ∧
    (∀ later, machine.isCompiled = true → (machine.run later).isCompiled = true ∧
      (machine.run later).cell.stored = machine.cell.stored) ∧
    (∀ later turn caller e, machine.cell.holder = none →
      (machine.run later).callers[turn.caller]? = some caller →
      caller.stage = .release (.error e) →
        ((machine.run later).step turn).template = machine.template ∧
          ((machine.run later).step turn).cell = machine.cell) ∧
    (machine.runs.map fun run => (run.caller, run.call)).Nodup ∧
    ∀ index caller, machine.callers[index]? = some caller → ∀ call < caller.answers.length, ∀ e,
      caller.answers[call]? = some (.error e) ↔ ⟨index, call, .error e⟩ ∈ machine.runs := by
  intro machine
  have hsound : machine.Sound := sound_run template callers schedule
  refine ⟨fun index other hindex hother => ?_, fun earlier run later plan hruns hok => ?_,
    fun caller hcaller shared hmem => ?_, fun later hfull => ?_,
    fun later turn caller e hfree hcaller hstage => ?_, hsound.once,
    fun index caller hcaller call hcall e => ?_⟩
  · have hholder := hsound.holder_of_runs hindex
    rw [hsound.holder_of_runs hother] at hholder
    exact (Option.some.inj hholder).symm
  · have hrun : machine.runs[earlier.length]? = some run := by simp [hruns]
    obtain ⟨hlast, -⟩ := hsound.success _ run plan hrun hok
    rw [hruns, List.length_append, List.length_cons] at hlast
    exact List.length_eq_zero_iff.mp (by omega)
  · obtain ⟨index, hindex⟩ := List.mem_iff_getElem?.mp hcaller
    have hstored := (hsound.caller index caller hindex).stored shared hmem
    obtain ⟨serial, run, hrun, houtcome⟩ := hsound.holds shared hstored
    cases hok : run.outcome with
    | error e => rw [hok] at houtcome; cases houtcome
    | ok plan =>
      rw [hok] at houtcome
      obtain rfl := Except.ok.inj houtcome
      exact ⟨hstored, run, hrun, hok⟩
  · obtain ⟨shared, hstored⟩ := Option.isSome_iff_exists.mp hfull
    have hlater := (hsound.run_stored later).2 shared hstored
    exact ⟨by rw [isCompiled, OnceCell.isFull, hlater]; rfl, by rw [hlater, hstored]⟩
  · obtain ⟨hempty, htemplate, hcell⟩ := (hsound.run later).step_of_release hcaller hstage
    obtain ⟨hsame, hstays⟩ := hsound.run_stored later
    -- a plan that was stored would still be
    have hnone : machine.cell.stored = none := by
      refine Option.eq_none_iff_forall_ne_some.mpr fun shared hstored => ?_
      rw [hstays shared hstored] at hempty
      cases hempty
    exact ⟨htemplate.trans hsame, hcell.trans (OnceCell.eq_empty hnone hfree).symm⟩
  · rw [← caller.getElem?_errors hcall]
    exact (hsound.caller index caller hcaller).errors call e

/-- Both callers find the cell empty. The computation of the first one fails while the second one
waits for the lock, and then starts its own; the first one calls once more and is told the plan of
the second one. -/
theorem single_assignment_retry :
    let e : Error := .listRequired ['a']
    let plan : Plan := ⟨[], [], .empty⟩
    let first : Turn := ⟨0, fun _ => .error e⟩
    let second : Turn := ⟨1, fun _ => .ok plan⟩
    let looks := [first, second]
    let fails := [first, first, second, first]
    let succeeds := [first, second, second, second, second, second, first]
    ∃ waiting final : Machine, waiting = (start (.ofText []) 2).run looks ∧
      final = (waiting.run fails).run succeeds ∧ waiting.cell.holder = none ∧
      (waiting.run fails).callers[0]? = some ⟨[], .release (.error e)⟩ ∧
      ((waiting.run fails).step first).cell = waiting.cell ∧
      final.callers = [⟨[.error e, .ok ⟨1, plan⟩], .look⟩, ⟨[.ok ⟨1, plan⟩], .look⟩] ∧
      final.cell.stored = some ⟨1, plan⟩ := by
  intro e plan first second looks fails succeeds
  obtain ⟨-, -, -, -, hfailed, -⟩ := single_assignment (.ofText []) 2 looks
  obtain ⟨-, -, htold, -⟩ := single_assignment (.ofText []) 2 (looks ++ (fails ++ succeeds))
  have hwaiting : (start (.ofText []) 2).run looks =
      ⟨.ofText [], .empty, [], [⟨[], .wait⟩, ⟨[], .wait⟩]⟩ := rfl
  have hfinal : (start (.ofText []) 2).run (looks ++ (fails ++ succeeds)) =
      (((start (.ofText []) 2).run looks).run fails).run succeeds := by
    simp only [run, List.foldl_append]
  rw [hfinal] at htold
  generalize (start (.ofText []) 2).run looks = waiting at hwaiting hfailed htold ⊢
  have hfree : waiting.cell.holder = none := by
    rw [hwaiting]
    rfl
  have hfails : waiting.run fails = ⟨.ofText [], ⟨none, some 0⟩, [⟨0, 0, .error e⟩],
      [⟨[], .release (.error e)⟩, ⟨[], .wait⟩]⟩ := by
    rw [hwaiting]
    rfl
  have hfailing : (waiting.run fails).callers[0]? = some ⟨[], .release (.error e)⟩ := by
    rw [hfails]
    rfl
  have hcallers : ((waiting.run fails).run succeeds).callers =
      [⟨[.error e, .ok ⟨1, plan⟩], .look⟩, ⟨[.ok ⟨1, plan⟩], .look⟩] := by
    rw [hfails]
    cbv
  refine ⟨waiting, (waiting.run fails).run succeeds, rfl, rfl, hfree, hfailing,
    (hfailed fails first _ e hfree hfailing rfl).2, hcallers, ?_⟩
  generalize (waiting.run fails).run succeeds = final at htold hcallers
  have hcaller : ⟨[.ok ⟨1, plan⟩], .look⟩ ∈ final.callers := by
    rw [hcallers]
    exact List.mem_cons_of_mem _ List.mem_cons_self
  exact (htold _ hcaller _ List.mem_cons_self).1

end Machine

end Lazy

end NamedSql
