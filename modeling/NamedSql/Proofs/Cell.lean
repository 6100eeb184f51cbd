import Mathlib.Logic.Function.Iterate
import NamedSql.OnceCell

/-! # Callers of a cell

One step of a caller is one of the cases of `Steps`. Between its steps a caller relies on what it
knows of the cell (`Stage.Sound`): while it holds the lock nobody else changes the cell, and a value
that is stored stays. A step keeps what its own caller relies on and what all others rely on
(`Steps.sound`, `Steps.evolves`, `Stage.Sound.of_evolves`), and only values that a computation may
have are stored (`Steps.holds`). A caller that does not wait for the lock of another one comes
nearer to its answer (`Steps.rank_lt`), and one that is alone gets what `get` answers
(`exists_iterate_step`). -/

namespace NamedSql

/-- After a step of one caller, the others are what they were. -/
theorem getElem?_set_eq_some {γ : Type} {callers : List γ} {index other : Nat} {new caller : γ}
    (h : (callers.set index new)[other]? = some caller) :
    other = index ∧ caller = new ∨ other ≠ index ∧ callers[other]? = some caller := by
  by_cases heq : index = other
  · subst heq
    rw [List.getElem?_set_self'] at h
    obtain ⟨old, -, rfl⟩ := Option.map_eq_some_iff.mp h
    exact Or.inl ⟨rfl, rfl⟩
  · rw [List.getElem?_set_ne heq] at h
    exact Or.inr ⟨Ne.symm heq, h⟩

namespace OnceCell

variable {ε α : Type}

/-! ### Steps -/

/-- The steps of a caller whose computation would have the given outcome if it started now. -/
inductive Steps (caller : Nat) (outcome : Except ε α) (cell : OnceCell α) :
    Stage ε α → OnceCell α → Stage ε α → Prop
  | lookFull {value : α} (h : cell.stored = some value) :
      Steps caller outcome cell .look cell (.done (.ok value))
  | lookEmpty (h : cell.stored = none) : Steps caller outcome cell .look cell .wait
  | blocked {other : Nat} (h : cell.holder = some other) :
      Steps caller outcome cell .wait cell .wait
  | lock (h : cell.holder = none) :
      Steps caller outcome cell .wait { cell with holder := some caller } .lookAgain
  | foundFull {value : α} (h : cell.stored = some value) :
      Steps caller outcome cell .lookAgain cell (.release (.ok value))
  | start (h : cell.stored = none) : Steps caller outcome cell .lookAgain cell (.running outcome)
  | made {value : α} : Steps caller outcome cell (.running (.ok value)) cell (.store value)
  | failed {e : ε} : Steps caller outcome cell (.running (.error e)) cell (.release (.error e))
  | store {value : α} (h : cell.stored = none) :
      Steps caller outcome cell (.store value) { cell with stored := some value }
        (.release (.ok value))
  | keep {value old : α} (h : cell.stored = some old) :
      Steps caller outcome cell (.store value) cell (.release (.ok old))
  | unlock {answer : Except ε α} :
      Steps caller outcome cell (.release answer) { cell with holder := none } (.done answer)
  | done {answer : Except ε α} : Steps caller outcome cell (.done answer) cell (.done answer)

theorem steps_step (caller : Nat) (outcome : Except ε α) (cell : OnceCell α) (stage : Stage ε α) :
    Steps caller outcome cell stage (cell.step caller outcome stage).1
      (cell.step caller outcome stage).2 := by
  obtain ⟨stored, holder⟩ := cell
  cases stage with
  | look =>
    cases stored with
    | none => exact .lookEmpty rfl
    | some value => exact .lookFull rfl
  | wait =>
    cases holder with
    | none => exact .lock rfl
    | some other => exact .blocked rfl
  | lookAgain =>
    cases stored with
    | none => exact .start rfl
    | some value => exact .foundFull rfl
  | running outcome' =>
    cases outcome' with
    | ok value => exact .made
    | error e => exact .failed
  | store value =>
    cases stored with
    | none => exact .store rfl
    | some old => exact .keep rfl
  | release answer => exact .unlock
  | done answer => exact .done

/-! ### What a caller relies on -/

/-- The stored value is one that a computation may have. -/
def Holds (cell : OnceCell α) (good : Except ε α → Prop) : Prop :=
  ∀ value, cell.stored = some value → good (.ok value)

/-- The answer is the stored value, or an error that a computation may have. -/
def Tells (cell : OnceCell α) (good : Except ε α → Prop) : Except ε α → Prop
  | .ok value => cell.stored = some value
  | .error e => good (.error e)

/-- What a caller knows of the cell, where `good` are the outcomes that a computation may have. -/
def Stage.Sound (caller : Nat) (good : Except ε α → Prop) (cell : OnceCell α) : Stage ε α → Prop
  | .look => True
  | .wait => True
  | .lookAgain => cell.holder = some caller
  | .running outcome => cell.holder = some caller ∧ cell.stored = none ∧ good outcome
  | .store value => cell.holder = some caller ∧ cell.stored = none ∧ good (.ok value)
  | .release answer => cell.holder = some caller ∧ cell.Tells good answer
  | .done answer => cell.Tells good answer

/-- What all others rely on: a stored value stays, and a cell that another caller has locked does
not change. -/
structure Evolves (caller : Nat) (cell cell' : OnceCell α) : Prop where
  stored : ∀ value, cell.stored = some value → cell'.stored = some value
  locked : ∀ other, other ≠ caller → cell.holder = some other → cell' = cell

theorem Evolves.refl (caller : Nat) (cell : OnceCell α) : Evolves caller cell cell :=
  ⟨fun _ h => h, fun _ _ _ => rfl⟩

variable {caller : Nat} {outcome : Except ε α} {good good' : Except ε α → Prop}
  {cell cell' : OnceCell α} {stage stage' : Stage ε α}

theorem Tells.mono (hgood : ∀ o, good o → good' o)
    (hstored : ∀ value, cell.stored = some value → cell'.stored = some value)
    {answer : Except ε α} (h : cell.Tells good answer) : cell'.Tells good' answer := by
  cases answer with
  | ok value => exact hstored value h
  | error e => exact hgood _ h

theorem Stage.Sound.mono (hgood : ∀ o, good o → good' o) (hsound : stage.Sound caller good cell) :
    stage.Sound caller good' cell := by
  cases stage with
  | look => trivial
  | wait => trivial
  | lookAgain => exact hsound
  | running outcome => exact ⟨hsound.1, hsound.2.1, hgood _ hsound.2.2⟩
  | store value => exact ⟨hsound.1, hsound.2.1, hgood _ hsound.2.2⟩
  | release answer => exact ⟨hsound.1, hsound.2.mono hgood fun _ h => h⟩
  | done answer => exact Tells.mono hgood (fun _ h => h) hsound

theorem Steps.evolves (hsound : stage.Sound caller good cell)
    (h : Steps caller outcome cell stage cell' stage') : Evolves caller cell cell' := by
  cases h with
  | lock hfree =>
    refine ⟨fun _ h => h, fun other _ hother => ?_⟩
    rw [hfree] at hother
    cases hother
  | store hempty =>
    refine ⟨fun value hvalue => ?_, fun other hne hother => ?_⟩
    · rw [hempty] at hvalue
      cases hvalue
    · exact absurd (Option.some.inj (hother.symm.trans hsound.1)) hne
  | unlock =>
    refine ⟨fun _ h => h, fun other hne hother => ?_⟩
    exact absurd (Option.some.inj (hother.symm.trans hsound.1)) hne
  | _ => exact .refl caller cell

/-- A step keeps what its caller relies on. -/
theorem Steps.sound (hgood : stage.starts stage' = true → good outcome)
    (hsound : stage.Sound caller good cell) (h : Steps caller outcome cell stage cell' stage') :
    stage'.Sound caller good cell' := by
  cases h with
  | lookFull hstored => exact hstored
  | lookEmpty => trivial
  | blocked => trivial
  | lock => exact rfl
  | foundFull hstored => exact ⟨hsound, hstored⟩
  | start hempty => exact ⟨hsound, hempty, hgood rfl⟩
  | made => exact hsound
  | failed => exact ⟨hsound.1, hsound.2.2⟩
  | store => exact ⟨hsound.1, rfl⟩
  | keep hstored => exact ⟨hsound.1, hstored⟩
  | unlock => exact hsound.2.mono (fun _ h => h) fun _ h => h
  | done => exact hsound

/-- A step stores no value that a computation may not have. -/
theorem Steps.holds (hholds : cell.Holds good) (hsound : stage.Sound caller good cell)
    (h : Steps caller outcome cell stage cell' stage') : cell'.Holds good := by
  cases h with
  | @store value hempty =>
    intro kept hkept
    cases hkept
    exact hsound.2.2
  | _ => exact hholds

/-- A step of one caller keeps what another one relies on. -/
theorem Stage.Sound.of_evolves {other : Nat} (hne : other ≠ caller)
    (hsound : stage.Sound other good cell) (h : Evolves caller cell cell') :
    stage.Sound other good cell' := by
  cases stage with
  | look => trivial
  | wait => trivial
  | lookAgain =>
    obtain rfl := h.locked other hne hsound
    exact hsound
  | running outcome =>
    obtain rfl := h.locked other hne hsound.1
    exact hsound
  | store value =>
    obtain rfl := h.locked other hne hsound.1
    exact hsound
  | release answer =>
    obtain rfl := h.locked other hne hsound.1
    exact hsound
  | done answer => exact Tells.mono (fun _ h => h) h.stored hsound

/-! ### The lock -/

/-- The caller has the lock at this stage. -/
def Stage.Locks : Stage ε α → Prop
  | .look | .wait | .done _ => False
  | .lookAgain | .running _ | .store _ | .release _ => True

theorem Stage.Sound.holder (hsound : stage.Sound caller good cell) (hlocks : stage.Locks) :
    cell.holder = some caller := by
  cases stage with
  | look => exact hlocks.elim
  | wait => exact hlocks.elim
  | lookAgain => exact hsound
  | running outcome => exact hsound.1
  | store value => exact hsound.1
  | release answer => exact hsound.1
  | done answer => exact hlocks.elim

/-- A caller that has the lock after a step is at a stage that has it. -/
theorem Steps.locks (hlock : cell.holder = some caller → stage.Locks)
    (h : Steps caller outcome cell stage cell' stage') (hholder : cell'.holder = some caller) :
    stage'.Locks := by
  cases h with
  | lookFull => exact (hlock hholder).elim
  | lookEmpty => exact (hlock hholder).elim
  | blocked => exact (hlock hholder).elim
  | unlock => cases hholder
  | done => exact (hlock hholder).elim
  | _ => trivial

/-- Another caller has the lock after a step only if it had it before. -/
theorem Steps.holder_of_ne {other : Nat} (hne : other ≠ caller)
    (h : Steps caller outcome cell stage cell' stage') (hholder : cell'.holder = some other) :
    cell.holder = some other := by
  cases h with
  | lock => exact absurd (Option.some.inj hholder).symm hne
  | unlock => cases hholder
  | _ => exact hholder

/-! ### Nearer to the answer -/

/-- The number of steps that a caller may still take, waiting apart. -/
def Stage.rank : Stage ε α → Nat
  | .look => 7
  | .wait => 6
  | .lookAgain => 5
  | .running _ => 4
  | .store _ => 3
  | .release _ => 2
  | .done _ => 1

theorem Steps.rank_lt (hdone : ∀ answer, stage ≠ .done answer)
    (hfree : stage = .wait → cell.holder = none)
    (h : Steps caller outcome cell stage cell' stage') : stage'.rank < stage.rank := by
  cases h with
  | blocked hheld =>
    rw [hfree rfl] at hheld
    cases hheld
  | done => exact absurd rfl (hdone _)
  | _ => simp [Stage.rank]

/-! ### A caller that is alone -/

/-- A caller that is alone comes to the answer of `get` in at most six steps. -/
theorem exists_iterate_step (caller : Nat) (outcome : Except ε α) (cell : OnceCell α)
    (hfree : cell.holder = none) :
    ∃ n ≤ 6, (fun now : OnceCell α × Stage ε α => now.1.step caller outcome now.2)^[n]
      (cell, .look) = ((cell.get outcome).2, .done (cell.get outcome).1) := by
  obtain ⟨stored, holder⟩ := cell
  obtain rfl : holder = none := hfree
  cases stored with
  | some value => exact ⟨1, by decide, rfl⟩
  | none =>
    cases outcome with
    | error e => exact ⟨5, by decide, rfl⟩
    | ok value => exact ⟨6, by decide, rfl⟩

end OnceCell

end NamedSql
