import NamedSql.Proofs.Expansion
import NamedSql.Template

/-! # Steps of a draft

What an expansion that succeeds has done (`Expands`), what a step that succeeds has done
(`exists_of_step?`), and what a run that succeeds ends in (`reaches_of_run`): a draft that steps
lead to (`Reaches`) and in which no reference is left. An invariant of drafts is proved by one case
for each constructor of `Expands`, and holds of every draft that is reached. -/

namespace NamedSql

open Context (SealedBy)

theorem exists_of_bind_eq_ok {ε α β : Type} {x : Except ε α} {f : α → Except ε β} {b : β}
    (h : x >>= f = .ok b) : ∃ a, x = .ok a ∧ f a = .ok b := by
  cases x with
  | error e => cases h
  | ok a => exact ⟨a, rfl, h⟩

namespace Dialect

/-! ### One expansion -/

/-- What stands behind the cursor, and the layout, after a reference was expanded. -/
inductive Expands (dialect : Dialect) (capacities : Dict Nat) (finished : Nat) (behind : Text)
    (layout : Layout) (name : Text) : Context → Text → Layout → Prop
  | scalar {layout' : Layout} (hfree : capacities.contains name = false)
      (hadd : layout.addScalar name = .ok layout') :
      Expands dialect capacities finished behind layout name .scalar
        (Expansion.single.reverse ++ behind) layout'
  | inList {negated : Bool} {capacity : Nat} {layout' : Layout}
      (hcap : dialect.capacityOf capacities name = .ok capacity)
      (hadd : layout.addList name capacity negated = .ok layout') :
      Expands dialect capacities finished behind layout name (.inList negated)
        ((Expansion.group capacity).reverse ++ behind) layout'
  | likeAny {front field : Text} {negated : Bool} {capacity : Nat} {layout' : Layout}
      (hfront : finished ≤ front.length) (hfield : Expansion.placeholder ∉ field)
      (hcap : dialect.capacityOf capacities name = .ok capacity)
      (hadd : layout.addList name capacity negated = .ok layout') :
      Expands dialect capacities finished behind layout name (.likeAny front field negated)
        ((Expansion.alternatives field capacity negated).reverse ++ front) layout'

variable {dialect : Dialect} {capacities : Dict Nat}

theorem bind_addList_eq_ok {name : Text} {negated : Bool} {layout layout' : Layout}
    {f : Nat → Text} {t : Text}
    (h : (do
      let capacity ← dialect.capacityOf capacities name
      let layout ← layout.addList name capacity negated
      return (f capacity, layout) : Except Error (Text × Layout)) = .ok (t, layout')) :
    ∃ capacity, dialect.capacityOf capacities name = .ok capacity ∧
      layout.addList name capacity negated = .ok layout' ∧ t = f capacity := by
  obtain ⟨capacity, hcap, h⟩ := exists_of_bind_eq_ok h
  obtain ⟨layout1, hadd, h⟩ := exists_of_bind_eq_ok h
  cases h
  exact ⟨capacity, hcap, hadd, rfl⟩

theorem expands_of_expand {finished : Nat} {behind name behind' : Text}
    {layout layout' : Layout} {context : Context}
    (h : dialect.expand capacities finished behind layout name context = .ok (behind', layout')) :
    Expands dialect capacities finished behind layout name context behind' layout' := by
  cases context with
  | scalar =>
    unfold expand at h
    dsimp only at h
    split_ifs at h with hc
    cases hadd : layout.addScalar name with
    | error e => rw [hadd] at h; cases h
    | ok layout1 =>
      rw [hadd] at h
      cases h
      exact .scalar (by simpa using hc) hadd
  | inList negated =>
    obtain ⟨capacity, hcap, hadd, rfl⟩ := bind_addList_eq_ok h
    exact .inList hcap hadd
  | likeAny front field negated =>
    unfold expand at h
    dsimp only at h
    split_ifs at h with hc
    obtain ⟨capacity, hcap, hadd, rfl⟩ := bind_addList_eq_ok h
    rw [not_or, Nat.not_lt] at hc
    exact .likeAny hc.1 hc.2 hcap hadd

/-- An expansion seals the text behind the cursor. -/
theorem Expands.sealedBy {finished : Nat} {behind name behind' : Text} {layout layout' : Layout}
    {context : Context}
    (h : Expands dialect capacities finished behind layout name context behind' layout') :
    SealedBy Expansion.placeholder behind' := by
  cases h with
  | scalar => exact Expansion.sealedBy_single _
  | inList hcap => exact Expansion.sealedBy_group (capacityOf_pos hcap) _
  | likeAny _ _ hcap => exact Expansion.sealedBy_alternatives _ _ (capacityOf_pos hcap) _

/-! ### One step -/

theorem step?_of_none {draft : Draft}
    (h : Reference.first? dialect.marker draft.ahead = none) :
    dialect.step? capacities draft = none := by
  rw [step?, h]
  rfl

theorem step?_of_some {draft : Draft} {r : Reference}
    (h : Reference.first? dialect.marker draft.ahead = some r) :
    dialect.step? capacities draft =
      let behind := r.lead.reverse ++ draft.behind
      let context := Context.ofBehind behind
      some (⟨r.name, context, Text.byteLength behind⟩,
        (dialect.expand capacities draft.behind.length behind draft.layout r.name context).map
          fun (behind, layout) => ⟨behind, r.tail, layout⟩) := by
  rw [step?, h]
  rfl

theorem first?_of_step?_eq_none {draft : Draft} (h : dialect.step? capacities draft = none) :
    Reference.first? dialect.marker draft.ahead = none :=
  Option.map_eq_none_iff.mp h

/-- A step that succeeds has expanded the first reference ahead, in the context that the text
behind its marker gives. -/
theorem exists_of_step? {draft next : Draft} {visit : Visit}
    (h : dialect.step? capacities draft = some (visit, .ok next)) :
    ∃ r, Reference.first? dialect.marker draft.ahead = some r ∧ next.ahead = r.tail ∧
      Expands dialect capacities draft.behind.length (r.lead.reverse ++ draft.behind) draft.layout
        r.name (Context.ofBehind (r.lead.reverse ++ draft.behind)) next.behind next.layout := by
  obtain ⟨r, hr, heq⟩ := Option.map_eq_some_iff.mp h
  refine ⟨r, hr, ?_⟩
  have hnext := (Prod.mk.inj heq).2
  cases hexp : dialect.expand capacities draft.behind.length (r.lead.reverse ++ draft.behind)
      draft.layout r.name (Context.ofBehind (r.lead.reverse ++ draft.behind)) with
  | error e => rw [hexp] at hnext; cases hnext
  | ok result =>
    rw [hexp] at hnext
    cases hnext
    exact ⟨rfl, expands_of_expand hexp⟩

/-- The visit of a step is that of the first reference ahead. -/
theorem visit_of_step? {draft : Draft} {visit : Visit} {result : Except Error Draft} {r : Reference}
    (hr : Reference.first? dialect.marker draft.ahead = some r)
    (h : dialect.step? capacities draft = some (visit, result)) :
    visit = ⟨r.name, Context.ofBehind (r.lead.reverse ++ draft.behind),
      Text.byteLength (r.lead.reverse ++ draft.behind)⟩ := by
  rw [step?_of_some hr] at h
  exact (Prod.mk.inj (Option.some.inj h)).1.symm

/-! ### Runs -/

/-- Steps that succeed lead from one draft to the other. -/
inductive Reaches (dialect : Dialect) (capacities : Dict Nat) (draft : Draft) : Draft → Prop
  | refl : Reaches dialect capacities draft draft
  | step {mid next : Draft} {visit : Visit} (hmid : Reaches dialect capacities draft mid)
      (h : dialect.step? capacities mid = some (visit, .ok next)) :
      Reaches dialect capacities draft next

theorem Reaches.trans {first mid last : Draft} (h1 : Reaches dialect capacities first mid)
    (h2 : Reaches dialect capacities mid last) : Reaches dialect capacities first last := by
  induction h2 with
  | refl => exact h1
  | step _ h ih => exact ih.step h

/-- **Induction along a run that succeeds**: from the drafts behind a step to the draft in front of
it. -/
theorem run_induction {last : Draft} {motive : Draft → List Visit → Prop}
    (done : dialect.step? capacities last = none → motive last [])
    (step : ∀ draft next visit visits, dialect.step? capacities draft = some (visit, .ok next) →
      motive next visits → motive draft (visit :: visits))
    {draft : Draft} (h : (dialect.run capacities draft).2 = .ok last) :
    motive draft (dialect.run capacities draft).1 := by
  induction hn : draft.ahead.length using Nat.strong_induction_on generalizing draft with
  | _ n ih =>
    subst hn
    cases hstep : dialect.step? capacities draft with
    | none =>
      rw [run_of_step?_eq_none hstep] at h ⊢
      cases h
      exact done hstep
    | some result =>
      obtain ⟨visit, e | next⟩ := result
      · rw [run_of_step?_eq_error hstep] at h
        cases h
      · rw [run_of_step?_eq_ok hstep] at h ⊢
        exact step _ _ _ _ hstep (ih _ (length_ahead_lt_of_step? hstep) h rfl)

/-- A run that succeeds ends in a draft that it reaches and that has no reference left. -/
theorem reaches_of_run {draft last : Draft} (h : (dialect.run capacities draft).2 = .ok last) :
    Reaches dialect capacities draft last ∧
      Reference.first? dialect.marker last.ahead = none := by
  refine run_induction (motive := fun draft _ => Reaches dialect capacities draft last ∧
    Reference.first? dialect.marker last.ahead = none) (fun hnone => ?_) ?_ h
  · exact ⟨.refl, first?_of_step?_eq_none hnone⟩
  · rintro draft next visit visits hstep ⟨h1, h2⟩
    exact ⟨(Reaches.refl.step hstep).trans h1, h2⟩

/-- A text compiles if its run succeeds and every name with a capacity is that of a parameter. -/
theorem compile_eq_ok_iff {text : Text} {plan : Plan} :
    dialect.compile text capacities = .ok plan ↔
      ∃ last, (dialect.run capacities (.ofText text)).2 = .ok last ∧
        plan = ⟨text, last.text, last.layout⟩ ∧
          ∀ name n, capacities.get? name = some n → plan.isParam name = true := by
  have hnames : ∀ layout : Layout,
      (capacities.names.find? fun name => (layout.param? name).isNone) = none ↔
        ∀ name n, capacities.get? name = some n → (layout.param? name).isSome = true := by
    intro layout
    rw [List.find?_eq_none]
    simp only [Dict.mem_names_iff, forall_exists_index, Option.isNone_iff_eq_none,
      Option.isSome_iff_ne_none, ne_eq]
  unfold compile
  constructor
  · intro h
    split at h
    · cases h
    · rename_i last hlast
      split at h
      · cases h
      · rename_i hfind
        exact ⟨last, hlast, (Except.ok.inj h).symm,
          (Except.ok.inj h) ▸ (hnames last.layout).mp hfind⟩
  · rintro ⟨last, hlast, rfl, hparam⟩
    rw [hlast]
    dsimp only
    rw [(hnames last.layout).mpr hparam]

/-- The plan of a text is the last draft of its run. -/
theorem exists_of_compile {text : Text} {plan : Plan}
    (h : dialect.compile text capacities = .ok plan) :
    ∃ last, (dialect.run capacities (.ofText text)).2 = .ok last ∧
      plan = ⟨text, last.text, last.layout⟩ := by
  obtain ⟨last, hlast, hplan, -⟩ := compile_eq_ok_iff.mp h
  exact ⟨last, hlast, hplan⟩

end Dialect

end NamedSql
