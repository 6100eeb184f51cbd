import Mathlib.Data.List.Nodup
import NamedSql.Proofs.Callers

/-! # What callers that share a cache rely on

Every cell of a cache belongs to one template, its owner. What is stored in a cell, what a call
knows of it and what was answered is what the owner compiles to; and a template that can be compiled
keeps its cell for good (`Cache.Sound`, `Call.Sound`). A step of one call keeps what all others rely
on (`Evolves`), in particular the removal of an entry, which only happens to templates that cannot
be compiled. So a machine that runs from an empty cache is sound (`sound_of_reaches`), and what the
steps of sound machines keep holds in the whole run (`holds_of_reaches`). -/

namespace NamedSql

/-- The template can be compiled. -/
def Template.Compiles (template : Template) : Prop := ∃ plan, template.compile = .ok plan

namespace Cache

open OnceCell (Stage)

/-! ### What there is to know -/

/-- The outcomes that a compilation of a template may have once it was started. -/
def Possible (log : List Template) (template : Template)
    (outcome : Except Error (Shared Plan)) : Prop :=
  template ∈ log ∧ ∃ serial, outcome = template.compile.map (Shared.mk serial)

/-- The answer is the plan in the cell that the template has, or the error of the template. -/
def Answers (cache : Cache) (template : Template) : Except Error (Shared Plan) → Prop
  | .ok shared => template.compile = .ok shared.value ∧ ∃ place cell,
      (template, place) ∈ cache.entries ∧ cache.cells[place]? = some cell ∧
        cell.stored = some shared
  | .error e => template.compile = .error e

/-- What is known of a cache when the compilations in `log` were started. -/
structure Sound (log owners : List Template) (cache : Cache) : Prop where
  length : owners.length = cache.cells.length
  entry : ∀ template place, (template, place) ∈ cache.entries → owners[place]? = some template
  nodup : (cache.entries.map (·.1)).Nodup
  kept : ∀ (template : Template) (place : Nat), owners[place]? = some template →
    template.Compiles → (template, place) ∈ cache.entries
  holds : ∀ (template : Template) (place : Nat) (cell : OnceCell (Shared Plan)),
    owners[place]? = some template → cache.cells[place]? = some cell →
      cell.Holds (Possible log template)

/-- What a call knows. -/
def Call.Sound (log owners : List Template) (cache : Cache) (caller : Nat) : Call → Prop
  | .request _ => True
  | .inside template place stage => owners[place]? = some template ∧
      ∃ cell, cache.cells[place]? = some cell ∧ stage.Sound caller (Possible log template) cell
  | .cleanup template place e => owners[place]? = some template ∧ template.compile = .error e
  | .returned template answer => cache.Answers template answer

/-- What the other callers rely on when one caller takes a step. -/
structure Evolves (caller : Nat) (owners : List Template) (cache : Cache) (owners' : List Template)
    (cache' : Cache) : Prop where
  owner : ∀ (place : Nat) (template : Template), owners[place]? = some template →
    owners'[place]? = some template
  entry : ∀ template place, (template, place) ∈ cache.entries → template.Compiles →
    (template, place) ∈ cache'.entries
  cell : ∀ (place : Nat) (cell : OnceCell (Shared Plan)), cache.cells[place]? = some cell →
    ∃ cell', cache'.cells[place]? = some cell' ∧ cell.Evolves caller cell'

section

variable {log log' owners owners' : List Template} {cache cache' : Cache} {caller other : Nat}
  {template : Template} {outcome : Except Error (Shared Plan)}

theorem Possible.compile_eq_ok {shared : Shared Plan}
    (h : Possible log template (.ok shared)) : template.compile = .ok shared.value := by
  obtain ⟨-, serial, hserial⟩ := h
  cases hcompile : template.compile with
  | error e => rw [hcompile] at hserial; cases hserial
  | ok plan =>
    rw [hcompile] at hserial
    cases hserial
    rfl

theorem Possible.compile_eq_error {e : Error} (h : Possible log template (.error e)) :
    template.compile = .error e := by
  obtain ⟨-, serial, hserial⟩ := h
  cases hcompile : template.compile with
  | error e' =>
    rw [hcompile] at hserial
    cases hserial
    rfl
  | ok plan => rw [hcompile] at hserial; cases hserial

theorem Possible.mono (hlog : log ⊆ log') (h : Possible log template outcome) :
    Possible log' template outcome :=
  ⟨hlog h.1, h.2⟩

theorem Answers.exists_eq_ok {answer : Except Error (Shared Plan)} {plan : Plan}
    (h : cache.Answers template answer) (hplan : template.compile = .ok plan) :
    ∃ serial, answer = .ok ⟨serial, plan⟩ := by
  cases answer with
  | error e =>
    have hfails : template.compile = .error e := h
    rw [hplan] at hfails
    cases hfails
  | ok shared =>
    obtain ⟨hcompile, -⟩ := h
    rw [hplan] at hcompile
    obtain rfl := Except.ok.inj hcompile
    exact ⟨shared.serial, rfl⟩

theorem Answers.eq_error {answer : Except Error (Shared Plan)} {e : Error}
    (h : cache.Answers template answer) (hfails : template.compile = .error e) :
    answer = .error e := by
  cases answer with
  | error e' =>
    have hfails' : template.compile = .error e' := h
    rw [hfails'] at hfails
    obtain rfl := Except.error.inj hfails
    rfl
  | ok shared =>
    obtain ⟨hcompile, -⟩ := h
    rw [hfails] at hcompile
    cases hcompile

theorem Answers.of_evolves (h : Evolves caller owners cache owners' cache')
    {answer : Except Error (Shared Plan)} (hanswer : cache.Answers template answer) :
    cache'.Answers template answer := by
  cases answer with
  | error e => exact hanswer
  | ok shared =>
    obtain ⟨hcompile, place, cell, hentry, hcell, hstored⟩ := hanswer
    obtain ⟨cell', hcell', hevolves⟩ := h.cell place cell hcell
    exact ⟨hcompile, place, cell', h.entry _ _ hentry ⟨_, hcompile⟩, hcell',
      hevolves.stored _ hstored⟩

/-- A step of one caller keeps what the call of another one knows. -/
theorem Call.Sound.of_evolves (hlog : log ⊆ log') (hne : other ≠ caller)
    (h : Evolves caller owners cache owners' cache') {call : Call}
    (hcall : call.Sound log owners cache other) : call.Sound log' owners' cache' other := by
  cases call with
  | request template => trivial
  | inside template place stage =>
    obtain ⟨howner, cell, hcell, hstage⟩ := hcall
    obtain ⟨cell', hcell', hevolves⟩ := h.cell place cell hcell
    exact ⟨h.owner _ _ howner, cell', hcell',
      (hstage.mono fun _ => Possible.mono hlog).of_evolves hne hevolves⟩
  | cleanup template place e => exact ⟨h.owner _ _ hcall.1, hcall.2⟩
  | returned template answer => exact Answers.of_evolves h hcall

/-! ### Cells and entries -/

theorem getD_cells {place : Nat} {cell : OnceCell (Shared Plan)}
    (h : cache.cells[place]? = some cell) : cache.cells.getD place .empty = cell := by
  rw [List.getD_eq_getElem?_getD, h, Option.getD_some]

/-- Nothing is added when an entry is taken out. -/
theorem mem_of_mem_discard {entry : Template × Nat} {place : Nat}
    (h : entry ∈ (cache.discard template place).entries) : entry ∈ cache.entries := by
  unfold discard at h
  split_ifs at h
  · exact (List.mem_filter.mp h).1
  · exact h

theorem mem_of_place? {place : Nat} (h : cache.place? template = some place) :
    (template, place) ∈ cache.entries := by
  obtain ⟨entry, hentry, rfl⟩ := Option.map_eq_some_iff.mp h
  have hname := List.find?_some hentry
  obtain rfl : entry.1 = template := beq_iff_eq.mp hname
  exact List.mem_of_find?_eq_some hentry

theorem not_mem_of_place? (h : cache.place? template = none) :
    template ∉ cache.entries.map (·.1) := by
  intro hmem
  obtain ⟨entry, hentry, rfl⟩ := List.mem_map.mp hmem
  have hnone := List.find?_eq_none.mp (Option.map_eq_none_iff.mp h) entry hentry
  exact hnone (beq_self_eq_true _)

/-- A template has one cell at most. -/
theorem Sound.eq_of_mem (h : cache.Sound log owners) {place place' : Nat}
    (hmem : (template, place) ∈ cache.entries) (hmem' : (template, place') ∈ cache.entries) :
    place = place' := by
  have heq := List.inj_on_of_nodup_map h.nodup hmem hmem' rfl
  exact (Prod.mk.inj heq).2

theorem Sound.place?_of_mem (h : cache.Sound log owners) {place : Nat}
    (hmem : (template, place) ∈ cache.entries) : cache.place? template = some place := by
  cases hplace : cache.place? template with
  | none => exact absurd (List.mem_map_of_mem hmem) (not_mem_of_place? hplace)
  | some place' => rw [h.eq_of_mem hmem (mem_of_place? hplace)]

theorem Sound.exists_cell (h : cache.Sound log owners) {place : Nat}
    (howner : owners[place]? = some template) : ∃ cell, cache.cells[place]? = some cell := by
  obtain ⟨hlt, -⟩ := List.getElem?_eq_some_iff.mp howner
  rw [h.length] at hlt
  exact ⟨_, List.getElem?_eq_getElem hlt⟩

/-- The stored plan is the one that the owner compiles to. -/
theorem Sound.answers_of_stored (h : cache.Sound log owners) {place : Nat}
    {cell : OnceCell (Shared Plan)} {shared : Shared Plan} (howner : owners[place]? = some template)
    (hcell : cache.cells[place]? = some cell) (hstored : cell.stored = some shared) :
    cache.Answers template (.ok shared) := by
  have hcompile := (h.holds template place cell howner hcell shared hstored).compile_eq_ok
  exact ⟨hcompile, place, cell, h.kept template place howner ⟨_, hcompile⟩, hcell, hstored⟩

theorem Sound.mono (hlog : log ⊆ log') (h : cache.Sound log owners) :
    cache.Sound log' owners := by
  refine ⟨h.length, h.entry, h.nodup, h.kept, fun t place cell howner hcell value hvalue => ?_⟩
  exact (h.holds t place cell howner hcell value hvalue).mono hlog

/-! ### Steps of a call -/

theorem Evolves.refl (caller : Nat) (owners : List Template) (cache : Cache) :
    Evolves caller owners cache owners cache :=
  ⟨fun _ _ h => h, fun _ _ h _ => h, fun _ cell h => ⟨cell, h, .refl caller cell⟩⟩

/-- A new cell belongs to the template that it is made for. -/
theorem Sound.made (caller : Nat) (h : cache.Sound log owners)
    (hplace : cache.place? template = none) :
    Cache.Sound log (owners ++ [template])
        { cache with
          cells := cache.cells ++ [.empty]
          entries := cache.entries ++ [(template, cache.cells.length)] } ∧
      Evolves caller owners cache (owners ++ [template])
        { cache with
          cells := cache.cells ++ [.empty]
          entries := cache.entries ++ [(template, cache.cells.length)] } := by
  have hlast : ∀ (t : Template) (place : Nat), (owners ++ [template])[place]? = some t →
      owners[place]? = some t ∨ place = cache.cells.length ∧ t = template := by
    intro t place hget
    rw [List.getElem?_append] at hget
    split_ifs at hget with hlt
    · exact Or.inl hget
    · obtain ⟨hlt', heq⟩ := List.getElem?_eq_some_iff.mp hget
      rw [List.length_singleton] at hlt'
      rw [List.getElem_singleton] at heq
      have := h.length
      exact Or.inr ⟨by omega, heq.symm⟩
  have howner : ∀ (place : Nat) (t : Template), owners[place]? = some t →
      (owners ++ [template])[place]? = some t := by
    intro place t hget
    obtain ⟨hlt, -⟩ := List.getElem?_eq_some_iff.mp hget
    rwa [List.getElem?_append_left hlt]
  have hcell : ∀ (place : Nat) (cell : OnceCell (Shared Plan)), cache.cells[place]? = some cell →
      (cache.cells ++ [.empty])[place]? = some cell := by
    intro place cell hget
    obtain ⟨hlt, -⟩ := List.getElem?_eq_some_iff.mp hget
    rwa [List.getElem?_append_left hlt]
  refine ⟨⟨?_, ?_, ?_, ?_, ?_⟩, ⟨howner, fun t place hmem _ => List.mem_append_left _ hmem,
    fun place cell hget => ⟨cell, hcell place cell hget, .refl caller cell⟩⟩⟩
  · rw [List.length_append, List.length_append, h.length]
    rfl
  · intro t place hmem
    rcases List.mem_append.mp hmem with hmem | hmem
    · exact howner _ _ (h.entry t place hmem)
    · obtain ⟨rfl, rfl⟩ := Prod.mk.inj (List.mem_singleton.mp hmem)
      rw [← h.length, List.getElem?_concat_length]
  · rw [List.map_append, List.map_singleton]
    refine List.nodup_append'.mpr ⟨h.nodup, List.nodup_singleton _, ?_⟩
    rw [List.disjoint_singleton]
    exact not_mem_of_place? hplace
  · intro t place hget hcompiles
    rcases hlast t place hget with hget | ⟨rfl, rfl⟩
    · exact List.mem_append_left _ (h.kept t place hget hcompiles)
    · exact List.mem_append_right _ (List.mem_singleton_self _)
  · intro t place cell hget hgetcell
    rcases hlast t place hget with hget | ⟨rfl, rfl⟩
    · obtain ⟨hlt, -⟩ := List.getElem?_eq_some_iff.mp hget
      rw [h.length] at hlt
      rw [List.getElem?_append_left hlt] at hgetcell
      exact h.holds t place cell hget hgetcell
    · rw [List.getElem?_concat_length] at hgetcell
      cases hgetcell
      exact fun value hvalue => nomatch hvalue

/-- A cell is exchanged for one that the other callers can go on with. -/
theorem Sound.set (h : cache.Sound log owners) {place : Nat} {cell cell' : OnceCell (Shared Plan)}
    (hcell : cache.cells[place]? = some cell) (howner : owners[place]? = some template)
    (hevolves : cell.Evolves caller cell') (hholds : cell'.Holds (Possible log template))
    (compilations : Nat) :
    Cache.Sound log owners { cache with cells := cache.cells.set place cell', compilations } ∧
      Evolves caller owners cache owners
        { cache with cells := cache.cells.set place cell', compilations } := by
  obtain ⟨hlt, -⟩ := List.getElem?_eq_some_iff.mp hcell
  refine ⟨⟨?_, h.entry, h.nodup, h.kept, ?_⟩, ⟨fun _ _ h => h, fun _ _ h _ => h, ?_⟩⟩
  · rw [List.length_set, h.length]
  · intro t place1 cell1 howner1 hcell1
    by_cases heq : place = place1
    · subst heq
      rw [List.getElem?_set_self hlt] at hcell1
      obtain rfl := Option.some.inj hcell1
      obtain rfl := Option.some.inj (howner.symm.trans howner1)
      exact hholds
    · rw [List.getElem?_set_ne heq] at hcell1
      exact h.holds t place1 cell1 howner1 hcell1
  · intro place1 cell1 hcell1
    by_cases heq : place = place1
    · subst heq
      obtain rfl := Option.some.inj (hcell.symm.trans hcell1)
      exact ⟨cell', List.getElem?_set_self hlt, hevolves⟩
    · exact ⟨cell1, (List.getElem?_set_ne heq).trans hcell1, .refl caller cell1⟩

/-- Only the entry of a template that cannot be compiled is taken out. -/
theorem Sound.discard (caller : Nat) (h : cache.Sound log owners) {e : Error}
    (hfails : template.compile = .error e) (place : Nat) :
    (cache.discard template place).Sound log owners ∧
      Evolves caller owners cache owners (cache.discard template place) := by
  have hstays : ∀ (t : Template) (place1 : Nat), (t, place1) ∈ cache.entries → t.Compiles →
      (t, place1) ∈ cache.entries.filter fun entry => entry.1 != template := by
    rintro t place1 hmem ⟨plan, hplan⟩
    refine List.mem_filter.mpr ⟨hmem, bne_iff_ne.mpr ?_⟩
    rintro rfl
    rw [hfails] at hplan
    cases hplan
  unfold Cache.discard
  split_ifs
  · refine ⟨⟨h.length, fun t place1 hmem => h.entry t place1 (List.mem_filter.mp hmem).1, ?_, ?_,
      h.holds⟩, ⟨fun _ _ h => h, hstays, fun _ cell hcell => ⟨cell, hcell, .refl caller cell⟩⟩⟩
    · exact h.nodup.sublist (List.filter_sublist.map _)
    · exact fun t place1 howner hcompiles =>
        hstays t place1 (h.kept t place1 howner hcompiles) hcompiles
  · exact ⟨h, .refl caller owners cache⟩

/-- **One step of a call** keeps the cache sound, gives its caller what it needs for the next one,
and leaves the other callers what they rely on. -/
theorem Call.Steps.sound {call call' : Call} {started : List Template}
    (hcache : cache.Sound log owners) (hcall : call.Sound log owners cache caller)
    (h : call.Steps caller cache cache' call' started) :
    ∃ owners', cache'.Sound (log ++ started) owners' ∧
      Evolves caller owners cache owners' cache' ∧
      call'.Sound (log ++ started) owners' cache' caller := by
  cases h with
  | @found template place hplace =>
    have howner := hcache.entry _ _ (mem_of_place? hplace)
    obtain ⟨cell, hcell⟩ := hcache.exists_cell howner
    rw [List.append_nil]
    exact ⟨owners, hcache, .refl caller owners cache, howner, cell, hcell, trivial⟩
  | @made template hplace =>
    obtain ⟨hcache', hevolves⟩ := hcache.made caller hplace
    have howner : (owners ++ [template])[cache.cells.length]? = some template := by
      rw [← hcache.length, List.getElem?_concat_length]
    rw [List.append_nil]
    exact ⟨_, hcache', hevolves, howner, .empty, List.getElem?_concat_length, trivial⟩
  | @inside template place stage stage' cell' hdone hsteps =>
    obtain ⟨howner, cell, hcell, hstage⟩ := hcall
    rw [getD_cells hcell] at hsteps
    have hlog : log ⊆ log ++ Cache.started template stage stage' := List.subset_append_left _ _
    have hpossible : stage.starts stage' = true →
        Possible (log ++ Cache.started template stage stage') template
          (cache.outcome template) := by
      intro hstarts
      refine ⟨List.mem_append_right _ ?_, _, rfl⟩
      rw [Cache.started, if_pos hstarts]
      exact List.mem_singleton_self _
    have hcache1 := hcache.mono hlog
    have hstage1 := hstage.mono fun _ => Possible.mono hlog
    obtain ⟨hcache', hevolves⟩ := hcache1.set hcell howner (hsteps.evolves hstage)
      (hsteps.holds (hcache1.holds template place cell howner hcell) hstage1)
      (cache.compilations + (Cache.started template stage stage').length)
    refine ⟨owners, hcache', hevolves, howner, cell', ?_, hsteps.sound hpossible hstage1⟩
    exact List.getElem?_set_self (List.getElem?_eq_some_iff.mp hcell).1
  | @answered template place shared =>
    obtain ⟨howner, cell, hcell, hstored⟩ := hcall
    rw [List.append_nil]
    exact ⟨owners, hcache, .refl caller owners cache,
      hcache.answers_of_stored howner hcell hstored⟩
  | @failed template place e =>
    obtain ⟨howner, cell, hcell, herror⟩ := hcall
    rw [List.append_nil]
    exact ⟨owners, hcache, .refl caller owners cache, howner, herror.compile_eq_error⟩
  | @cleaned template place e =>
    obtain ⟨hcache', hevolves⟩ := hcache.discard caller hcall.2 place
    rw [List.append_nil]
    exact ⟨owners, hcache', hevolves, hcall.2⟩

end

/-! ### Machines -/

namespace Machine

/-- What is known of a machine when the compilations in `log` were started. -/
structure Sound (log owners : List Template) (machine : Machine) : Prop where
  cache : machine.cache.Sound log owners
  call : ∀ (index : Nat) (caller : Caller) (call : Call), machine.callers[index]? = some caller →
    caller.call = some call → call.Sound log owners machine.cache index
  finished : ∀ (index : Nat) (caller : Caller), machine.callers[index]? = some caller →
    ∀ template answer, (template, answer) ∈ caller.finished →
      machine.cache.Answers template answer

theorem sound_start (requests : List (List Template)) :
    (start .empty requests).Sound [] [] := by
  have hidle : ∀ (index : Nat) (caller : Caller),
      (start .empty requests).callers[index]? = some caller →
        caller.call = none ∧ caller.finished = [] := by
    intro index caller h
    rw [start, List.getElem?_map] at h
    obtain ⟨todo, -, rfl⟩ := Option.map_eq_some_iff.mp h
    exact ⟨rfl, rfl⟩
  refine ⟨⟨rfl, fun _ _ h => absurd h List.not_mem_nil, List.nodup_nil, ?_, ?_⟩, ?_, ?_⟩
  · intro template place h
    cases h
  · intro template place cell h
    cases h
  · intro index caller call h hcall
    rw [(hidle index caller h).1] at hcall
    cases hcall
  · intro index caller h template answer hmem
    rw [(hidle index caller h).2] at hmem
    exact absurd hmem List.not_mem_nil

theorem Steps.sound {machine machine' : Machine} {log owners started : List Template} {index : Nat}
    (hsound : machine.Sound log owners) (h : machine.Steps index machine' started) :
    ∃ owners', machine'.Sound (log ++ started) owners' := by
  cases h with
  | idle =>
    rw [List.append_nil]
    exact ⟨owners, hsound⟩
  | @begin caller template todo hcaller hcall htodo =>
    rw [List.append_nil]
    refine ⟨owners, hsound.cache, ?_, ?_⟩
    · intro other caller' call hget hcall'
      rcases getElem?_set_eq_some hget with ⟨rfl, rfl⟩ | ⟨-, hget⟩
      · cases hcall'
        trivial
      · exact hsound.call other caller' call hget hcall'
    · intro other caller' hget
      rcases getElem?_set_eq_some hget with ⟨rfl, rfl⟩ | ⟨-, hget⟩
      · exact hsound.finished other caller hcaller
      · exact hsound.finished other caller' hget
  | @finish caller template answer hcaller hcall =>
    have hanswer : machine.cache.Answers template answer :=
      hsound.call index caller _ hcaller hcall
    rw [List.append_nil]
    refine ⟨owners, hsound.cache, ?_, ?_⟩
    · intro other caller' call hget hcall'
      rcases getElem?_set_eq_some hget with ⟨rfl, rfl⟩ | ⟨-, hget⟩
      · cases hcall'
      · exact hsound.call other caller' call hget hcall'
    · intro other caller' hget template' answer' hmem
      rcases getElem?_set_eq_some hget with ⟨rfl, rfl⟩ | ⟨-, hget⟩
      · rcases List.mem_cons.mp hmem with heq | hmem
        · cases heq
          exact hanswer
        · exact hsound.finished other caller hcaller template' answer' hmem
      · exact hsound.finished other caller' hget template' answer' hmem
  | @call caller call call' cache' started hcaller hcall hsteps =>
    obtain ⟨owners', hcache', hevolves, hcall'⟩ :=
      hsteps.sound hsound.cache (hsound.call index caller call hcaller hcall)
    refine ⟨owners', hcache', ?_, ?_⟩
    · intro other caller1 call1 hget hcall1
      rcases getElem?_set_eq_some hget with ⟨rfl, rfl⟩ | ⟨hne, hget⟩
      · cases hcall1
        exact hcall'
      · exact (hsound.call other caller1 call1 hget hcall1).of_evolves
          (List.subset_append_left _ _) hne hevolves
    · intro other caller1 hget template answer hmem
      refine Answers.of_evolves hevolves ?_
      rcases getElem?_set_eq_some hget with ⟨rfl, rfl⟩ | ⟨-, hget⟩
      · exact hsound.finished other caller hcaller template answer hmem
      · exact hsound.finished other caller1 hget template answer hmem

/-- **Machines that run from an empty cache are sound.** -/
theorem sound_of_reaches {requests : List (List Template)} {machine : Machine}
    {log : List Template} (h : Reaches (start .empty requests) machine log) :
    ∃ owners, machine.Sound log owners := by
  induction h with
  | refl => exact ⟨[], sound_start requests⟩
  | step _ hstep ih =>
    obtain ⟨owners, hsound⟩ := ih
    exact hstep.sound hsound

/-- What holds at the start and what every step of a sound machine keeps, holds in the whole run. -/
theorem holds_of_reaches {requests : List (List Template)} {P : Machine → List Template → Prop}
    (hstart : P (start .empty requests) [])
    (hsteps : ∀ {machine machine' : Machine} {log owners started : List Template} {index : Nat},
      machine.Sound log owners → machine.Steps index machine' started → P machine log →
        P machine' (log ++ started))
    {machine : Machine} {log : List Template} (h : Reaches (start .empty requests) machine log) :
    P machine log := by
  induction h with
  | refl => exact hstart
  | step hreach hstep ih =>
    obtain ⟨owners, hsound⟩ := sound_of_reaches hreach
    exact hsteps hsound hstep ih

end Machine

end Cache

end NamedSql
