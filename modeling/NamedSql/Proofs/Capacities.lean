import NamedSql.Proofs.Acceptance
import NamedSql.Proofs.Padding

/-! # Capacities matter by what they come to

A list has a capacity of its own or that of the dialect, and a compilation looks it up at every
reference and looks at all capacities once more at its end. What matters in all this is only what
the capacity of each list comes to (`Dialect.room`).

Two compilations of one text with different capacities write different texts behind their cursors,
but the texts are both empty or both sealed by a placeholder (`Draft.InStep`). So the two runs stay
at the same place of the template and find the same uses there (`map_use_run`): a parameter is a
list for both or for none. If the capacities of the lists come to the same, the runs are the same
(`run_congr`), and so are the plans; if they do not, the plans differ in the parameters
(`compile_eq_iff_room_eq`). -/

namespace NamedSql

open Context (SealedBy Alike alike_of_nil_or_sealedBy)
open Layout

/-- Two drafts at the same place of one template: there is nothing behind either cursor, or a
placeholder in the last word behind both. -/
structure Draft.InStep (draft draft' : Draft) : Prop where
  /-- The same text is left. -/
  ahead : draft'.ahead = draft.ahead
  /-- What has been written ends in a reference for both, or nothing has been written. -/
  behind : draft.behind = [] ∧ draft'.behind = [] ∨
    SealedBy Expansion.placeholder draft.behind ∧ SealedBy Expansion.placeholder draft'.behind

theorem Draft.InStep.alike {draft draft' : Draft} (h : draft.InStep draft') (l : Text) :
    Alike Expansion.placeholder Expansion.placeholder draft.behind draft'.behind
      (Context.ofBehind (l ++ draft.behind)) (Context.ofBehind (l ++ draft'.behind)) :=
  alike_of_nil_or_sealedBy h.behind unspelled_placeholder unspelled_placeholder l

/-- The capacities suit the visit: a scalar has none, and that of a list is not zero. -/
def Visit.Suits (capacities : Dict Nat) (visit : Visit) : Prop :=
  (visit.context = .scalar → capacities.get? visit.name = none) ∧
    (visit.context ≠ .scalar → capacities.get? visit.name ≠ some 0)

namespace Dialect

section

variable {dialect dialect' : Dialect} {capacities capacities' : Dict Nat}

/-! ### Two runs in step -/

/-- **Two steps in step** find the same use. -/
theorem inStep_step (hm : dialect'.marker = dialect.marker) {draft draft' next next' : Draft}
    {visit visit' : Visit} (hinstep : draft.InStep draft')
    (h : dialect.step? capacities draft = some (visit, .ok next))
    (h' : dialect'.step? capacities' draft' = some (visit', .ok next')) :
    next.InStep next' ∧
      visit'.use dialect' capacities' = visit.use dialect' capacities' := by
  obtain ⟨r, hr, hahead, hexpands⟩ := exists_of_step? h
  obtain ⟨r', hr', hahead', hexpands'⟩ := exists_of_step? h'
  have hsame := hr'
  rw [hm, hinstep.ahead, hr] at hsame
  obtain rfl := Option.some.inj hsame
  obtain rfl := visit_of_step? hr h
  obtain rfl := visit_of_step? hr' h'
  refine ⟨⟨hahead'.trans hahead.symm, Or.inr ⟨hexpands.sealedBy, hexpands'.sealedBy⟩⟩, ?_⟩
  obtain ⟨hkind, hnegated⟩ :=
    (hinstep.alike r.lead.reverse).kind_eq (dialect'.room capacities' r.name)
  exact congrArg₂ (Param.mk r.name) hkind hnegated

/-- **Two runs in step** find the same uses, whatever the capacities are. -/
theorem map_use_run (hm : dialect'.marker = dialect.marker) {draft draft' last last' : Draft}
    (hinstep : draft.InStep draft') (h : (dialect.run capacities draft).2 = .ok last)
    (h' : (dialect'.run capacities' draft').2 = .ok last') :
    (dialect'.run capacities' draft').1.map (Visit.use dialect' capacities') =
      (dialect.run capacities draft).1.map (Visit.use dialect' capacities') := by
  refine run_induction (motive := fun draft visits => ∀ draft', draft.InStep draft' →
    (dialect'.run capacities' draft').2 = .ok last' →
      (dialect'.run capacities' draft').1.map (Visit.use dialect' capacities') =
        visits.map (Visit.use dialect' capacities')) ?_ ?_ h draft' hinstep h'
  · intro hnone draft' hinstep _
    have hr := first?_of_step?_eq_none hnone
    rw [← hm, ← hinstep.ahead] at hr
    rw [run_of_step?_eq_none (step?_of_none hr), List.map_nil]
  · intro draft next visit visits hstep ih draft' hinstep h'
    cases hstep' : dialect'.step? capacities' draft' with
    | none =>
      -- the other run finds the reference too
      obtain ⟨r, hr, -⟩ := exists_of_step? hstep
      have hr' := first?_of_step?_eq_none hstep'
      rw [hm, hinstep.ahead, hr] at hr'
      cases hr'
    | some result =>
      obtain ⟨visit', e | next'⟩ := result
      · rw [run_of_step?_eq_error hstep'] at h'
        cases h'
      · obtain ⟨hnext, huse⟩ := inStep_step hm hinstep hstep hstep'
        rw [run_of_step?_eq_ok hstep'] at h' ⊢
        rw [List.map_cons, List.map_cons, huse, ih next' hnext h']

/-! ### Runs that are the same -/

theorem expand_congr {name : Text} {context : Context}
    (hscalar : context = .scalar → capacities'.get? name = capacities.get? name)
    (hlist : context ≠ .scalar →
      dialect'.capacityOf capacities' name = dialect.capacityOf capacities name)
    (finished : Nat) (behind : Text) (layout : Layout) :
    dialect'.expand capacities' finished behind layout name context =
      dialect.expand capacities finished behind layout name context := by
  cases context with
  | scalar =>
    unfold expand Dict.contains
    rw [hscalar rfl]
  | inList negated =>
    unfold expand
    rw [hlist (by simp)]
  | likeAny front field negated =>
    unfold expand
    rw [hlist (by simp)]

/-- Capacities that suit every visit, and come to the same for the lists among them, make the same
run. -/
theorem run_congr (hm : dialect'.marker = dialect.marker) {draft last : Draft}
    (h : (dialect.run capacities draft).2 = .ok last)
    (hsuits : ∀ visit ∈ (dialect.run capacities draft).1, visit.Suits capacities)
    (hsuits' : ∀ visit ∈ (dialect.run capacities draft).1, visit.Suits capacities')
    (hroom : ∀ visit ∈ (dialect.run capacities draft).1, visit.context ≠ .scalar →
      dialect'.room capacities' visit.name = dialect.room capacities visit.name) :
    dialect'.run capacities' draft = dialect.run capacities draft := by
  refine run_induction (motive := fun draft visits => (∀ visit ∈ visits,
      visit.Suits capacities ∧ visit.Suits capacities' ∧ (visit.context ≠ .scalar →
        dialect'.room capacities' visit.name = dialect.room capacities visit.name)) →
    dialect'.run capacities' draft = dialect.run capacities draft) ?_ ?_ h
      fun visit hvisit => ⟨hsuits visit hvisit, hsuits' visit hvisit, hroom visit hvisit⟩
  · intro hnone _
    have hr := first?_of_step?_eq_none hnone
    rw [run_of_step?_eq_none hnone, run_of_step?_eq_none (step?_of_none (hm ▸ hr))]
  · intro draft next visit visits hstep ih hall
    obtain ⟨⟨hsuits, hrest⟩, hlater⟩ := List.forall_mem_cons.mp hall
    have hstep' : dialect'.step? capacities' draft = some (visit, .ok next) := by
      obtain ⟨r, hr, -⟩ := exists_of_step? hstep
      obtain rfl := visit_of_step? hr hstep
      obtain ⟨hsuits', hroom⟩ := hrest
      rw [← hstep, step?_of_some hr, step?_of_some (hm.symm ▸ hr)]
      dsimp only
      rw [expand_congr (fun hc => (hsuits'.1 hc).trans (hsuits.1 hc).symm) fun hc => ?_]
      rw [Occurrence.capacityOf_eq, Occurrence.capacityOf_eq, if_neg (hsuits'.2 hc),
        if_neg (hsuits.2 hc), hroom hc]
    rw [run_of_step?_eq_ok hstep', run_of_step?_eq_ok hstep, ih hlater]

theorem Expands.get?_eq_none {finished : Nat} {behind name behind' : Text} {layout layout' : Layout}
    {context : Context} (hscalar : context = .scalar)
    (h : dialect.Expands capacities finished behind layout name context behind' layout') :
    capacities.get? name = none := by
  cases h with
  | scalar hfree => simpa [Dict.contains] using hfree
  | inList => cases hscalar
  | likeAny => cases hscalar

theorem Expands.get?_ne_zero {finished : Nat} {behind name behind' : Text} {layout layout' : Layout}
    {context : Context} (hlist : context ≠ .scalar)
    (h : dialect.Expands capacities finished behind layout name context behind' layout') :
    capacities.get? name ≠ some 0 := by
  intro hzero
  have hcap : ∀ n, dialect.capacityOf capacities name ≠ .ok n := by
    intro n h
    rw [capacityOf, hzero] at h
    cases h
  cases h with
  | scalar => exact hlist rfl
  | inList h => exact hcap _ h
  | likeAny _ _ h => exact hcap _ h

/-- Capacities suit the visits of a run that succeeds with them. -/
theorem suits_of_run {draft last : Draft} (h : (dialect.run capacities draft).2 = .ok last) :
    ∀ visit ∈ (dialect.run capacities draft).1, visit.Suits capacities := by
  refine run_induction (motive := fun _ visits => ∀ visit ∈ visits, visit.Suits capacities)
    (fun _ => List.forall_mem_nil _) (fun draft next visit visits hstep ih => ?_) h
  refine List.forall_mem_cons.mpr ⟨?_, ih⟩
  obtain ⟨r, hr, -, hexpands⟩ := exists_of_step? hstep
  obtain rfl := visit_of_step? hr hstep
  exact ⟨fun hscalar => hexpands.get?_eq_none hscalar, fun hlist => hexpands.get?_ne_zero hlist⟩

end

end Dialect

/-! ### The lists of a plan -/

section

variable {dialect : Dialect} {capacities : Dict Nat} {text : Text} {plan : Plan}

/-- A name is that of a list if some use of it is. -/
theorem Plan.isList_iff {uses : List Param} (hplan : plan.layout = ofUses uses)
    (hu : Uniform uses) {name : Text} :
    plan.isList name = true ↔ ∃ use ∈ uses, use.name = name ∧ use.kind ≠ .scalar := by
  have hkind : ∀ param : Param, param.capacity?.isSome = true ↔ param.kind ≠ .scalar := by
    intro param
    unfold Param.capacity?
    split <;> simp_all
  rw [isList, param?, hplan, param?_ofUses_eq]
  constructor
  · intro h
    split_ifs at h with hmem
    · obtain ⟨use, huse, rfl⟩ := List.mem_map.mp hmem
      rw [Option.any_some, hkind, hu use huse] at h
      exact ⟨use, huse, rfl, h⟩
    · cases h
  · rintro ⟨use, huse, rfl, hlist⟩
    rw [if_pos (List.mem_map_of_mem huse), Option.any_some, hkind, hu use huse]
    exact hlist

/-- A name is that of a list if some visit finds it as one. -/
theorem Plan.isList_iff_visit {visits : List Visit}
    (hplan : plan.layout = ofUses (visits.map (Visit.use dialect capacities)))
    (hu : Uniform (visits.map (Visit.use dialect capacities))) {name : Text} :
    plan.isList name = true ↔ ∃ visit ∈ visits, visit.name = name ∧ visit.context ≠ .scalar := by
  rw [isList_iff hplan hu]
  constructor
  · rintro ⟨use, huse, hname, hkind⟩
    obtain ⟨visit, hvisit, rfl⟩ := List.mem_map.mp huse
    exact ⟨visit, hvisit, hname, Context.kind_eq_scalar_iff.not.mp hkind⟩
  · rintro ⟨visit, hvisit, hname, hcontext⟩
    exact ⟨_, List.mem_map_of_mem hvisit, hname, Context.kind_eq_scalar_iff.not.mpr hcontext⟩

/-- A list has room for what its capacity comes to. -/
theorem capacity_eq_room (h : dialect.compile text capacities = .ok plan) {name : Text}
    (hlist : plan.isList name = true) :
    plan.capacity name = .ok (dialect.room capacities name) := by
  obtain ⟨hplan, hu, -⟩ := Dialect.layout_of_compile h
  obtain ⟨visit, hvisit, rfl, hcontext⟩ := (Plan.isList_iff_visit hplan hu).mp hlist
  have huse := List.mem_map_of_mem (f := Visit.use dialect capacities) hvisit
  have hparam : plan.param? visit.name = some _ :=
    (congrArg (fun layout => Layout.param? layout _) hplan).trans (param?_ofUses huse)
  rw [Plan.capacity, hparam]
  dsimp only
  rw [Param.capacity?, hu _ huse, Visit.use]
  cases hc : visit.context with
  | scalar => exact absurd hc hcontext
  | inList negated => rfl
  | likeAny front field negated => rfl

theorem Plan.isParam_of_isList {name : Text} (h : plan.isList name = true) :
    plan.isParam name = true := by
  rw [isList] at h
  rw [isParam]
  cases hparam : plan.param? name with
  | none => rw [hparam] at h; cases h
  | some param => rfl

/-- A name that is visited as a scalar is not that of a list. -/
theorem isList_iff_of_mem_visits (h : dialect.compile text capacities = .ok plan)
    {visit : Visit} (hvisit : visit ∈ dialect.visits capacities text) :
    plan.isList visit.name = true ↔ visit.context ≠ .scalar := by
  obtain ⟨hplan, hu, -⟩ := Dialect.layout_of_compile h
  refine ⟨fun hlist hscalar => ?_, fun hcontext =>
    (Plan.isList_iff_visit hplan hu).mpr ⟨visit, hvisit, rfl, hcontext⟩⟩
  obtain ⟨use, huse, hname, hkind⟩ := (Plan.isList_iff hplan hu).mp hlist
  have hsame := uniform_iff.mp hu _ (List.mem_map_of_mem hvisit) use huse hname.symm
  rw [← hsame, Visit.use, hscalar] at hkind
  exact hkind rfl

/-- A name with a capacity of its own is that of a list, and the capacity is not zero. -/
theorem isList_of_get?_eq_some (h : dialect.compile text capacities = .ok plan) {name : Text}
    {n : Nat} (hget : capacities.get? name = some n) : plan.isList name = true ∧ 0 < n := by
  obtain ⟨last, hlast, -, hparam⟩ := Dialect.compile_eq_ok_iff.mp h
  obtain ⟨hplan, hu, -⟩ := Dialect.layout_of_compile h
  have hname := hparam name n hget
  rw [Plan.isParam, Plan.param?, hplan, param?_ofUses_eq] at hname
  split_ifs at hname with hmem
  · obtain ⟨use, huse, rfl⟩ := List.mem_map.mp hmem
    obtain ⟨visit, hvisit, rfl⟩ := List.mem_map.mp huse
    obtain ⟨hscalar, hlist⟩ := Dialect.suits_of_run hlast visit hvisit
    have hcontext : visit.context ≠ .scalar := by
      intro hc
      rw [Visit.use, hscalar hc] at hget
      cases hget
    refine ⟨(isList_iff_of_mem_visits h hvisit).mpr hcontext, Nat.pos_of_ne_zero ?_⟩
    rintro rfl
    exact hlist hcontext hget
  · cases hname

end

/-! ### Plans that are the same -/

/-- Two plans agree in all that is read from them: their texts, the parameters and where each of
them is found, and the keys and the positions of each of them. -/
structure Plan.Same (plan plan' : Plan) : Prop where
  /-- The text of the template. -/
  source : plan'.source = plan.source
  /-- The SQL. -/
  sql : plan'.sql = plan.sql
  /-- The number of placeholders. -/
  placeholders : plan'.placeholders = plan.placeholders
  /-- The parameters in order. -/
  params : plan'.params = plan.params
  /-- Where a parameter is found. -/
  index : ∀ name, plan'.layout.index? name = plan.layout.index? name
  /-- Where the placeholders of a key stand. -/
  positions : ∀ key, plan'.layout.positions? key = plan.layout.positions? key
  /-- The keys in order. -/
  keys : plan'.entries.map (·.1) = plan.entries.map (·.1)

/-- The entries of a table are told by its keys and their positions. -/
theorem entries_ofUses_eq {uses uses' : List Param}
    (hkeys : (ofUses uses').entries.map (·.1) = (ofUses uses).entries.map (·.1))
    (hpositions : ∀ key, (ofUses uses').positions? key = (ofUses uses).positions? key) :
    (ofUses uses').entries = (ofUses uses).entries := by
  rw [map_fst_entries_ofUses, map_fst_entries_ofUses] at hkeys
  unfold ofUses entriesOf
  dsimp only
  rw [hkeys]
  refine List.map_congr_left fun key hkey => ?_
  have hpos := hpositions key
  rw [positions?_ofUses (List.mem_eraseDups.mp (hkeys ▸ hkey)),
    positions?_ofUses (List.mem_eraseDups.mp hkey)] at hpos
  rw [Option.some.inj hpos]

/-- Plans that were compiled are the same only if they are equal. -/
theorem Plan.same_iff_eq {uses uses' : List Param} {plan plan' : Plan}
    (hplan : plan.layout = ofUses uses) (hplan' : plan'.layout = ofUses uses') :
    plan.Same plan' ↔ plan' = plan := by
  constructor
  · intro h
    have hkeys := h.keys
    have hpositions := h.positions
    rw [entries, entries, hplan, hplan'] at hkeys
    rw [hplan, hplan'] at hpositions
    have hentries : plan'.entries = plan.entries := by
      rw [entries, entries, hplan, hplan']
      exact entries_ofUses_eq hkeys hpositions
    obtain ⟨source, sql, placeholders, params, entries⟩ := plan
    obtain ⟨source', sql', placeholders', params', entries'⟩ := plan'
    obtain ⟨hsource, hsql, hplaceholders, hparams, -, -, -⟩ := h
    cases hsource
    cases hsql
    cases hplaceholders
    cases hparams
    cases hentries
    rfl
  · rintro rfl
    exact ⟨rfl, rfl, rfl, rfl, fun _ => rfl, fun _ => rfl, rfl⟩

/-! ### Two sets of capacities -/

section

variable {dialect dialect' : Dialect} {capacities capacities' : Dict Nat} {text : Text}
  {plan plan' : Plan}

/-- Other capacities that are those of lists, and come to the same for all of them, make the same
plan. -/
theorem compile_of_room_eq (hm : dialect'.marker = dialect.marker)
    (h : dialect.compile text capacities = .ok plan)
    (hlists : ∀ name n, capacities'.get? name = some n → plan.isList name = true ∧ 0 < n)
    (hroom : ∀ name, plan.isList name = true →
      dialect'.room capacities' name = dialect.room capacities name) :
    dialect'.compile text capacities' = .ok plan := by
  obtain ⟨last, hlast, hplan, -⟩ := Dialect.compile_eq_ok_iff.mp h
  have hvisit := fun visit => @isList_iff_of_mem_visits dialect capacities text plan h visit
  have hrun := Dialect.run_congr hm hlast (Dialect.suits_of_run hlast)
    (fun visit hmem => ⟨fun hscalar => ?_, fun _ hzero => ?_⟩)
    fun visit hmem hcontext => hroom visit.name ((hvisit visit hmem).mpr hcontext)
  · exact Dialect.compile_eq_ok_iff.mpr ⟨last, (congrArg Prod.snd hrun).trans hlast, hplan,
      fun name n hget => Plan.isParam_of_isList (hlists name n hget).1⟩
  · refine Option.eq_none_iff_forall_ne_some.mpr fun n hget => ?_
    exact (hvisit visit hmem).mp (hlists _ _ hget).1 hscalar
  · exact absurd (hlists _ _ hzero).2 (Nat.lt_irrefl 0)

/-- Whatever the capacities, a parameter is a list for both plans or for none. -/
theorem isList_eq_of_compile (hm : dialect'.marker = dialect.marker)
    (h : dialect.compile text capacities = .ok plan)
    (h' : dialect'.compile text capacities' = .ok plan') (name : Text) :
    plan'.isList name = plan.isList name := by
  obtain ⟨last, hlast, -⟩ := Dialect.exists_of_compile h
  obtain ⟨last', hlast', -⟩ := Dialect.exists_of_compile h'
  have huses : (dialect'.visits capacities' text).map (Visit.use dialect' capacities') =
      (dialect.visits capacities text).map (Visit.use dialect' capacities') :=
    Dialect.map_use_run hm ⟨rfl, Or.inl ⟨rfl, rfl⟩⟩ hlast hlast'
  obtain ⟨hplan, hu, -⟩ := Dialect.layout_of_compile h
  obtain ⟨hplan', hu', -⟩ := Dialect.layout_of_compile h'
  rw [huses] at hplan' hu'
  rw [Bool.eq_iff_iff, Plan.isList_iff_visit hplan' hu', Plan.isList_iff_visit hplan hu]

/-- Plans of one text are equal if the capacity of every list comes to the same. -/
theorem plan_eq_iff_room_eq (hm : dialect'.marker = dialect.marker)
    (h : dialect.compile text capacities = .ok plan)
    (h' : dialect'.compile text capacities' = .ok plan') :
    plan' = plan ↔ ∀ name, plan.isList name = true →
      dialect'.room capacities' name = dialect.room capacities name := by
  constructor
  · rintro rfl name hlist
    exact Except.ok.inj ((capacity_eq_room h' hlist).symm.trans (capacity_eq_room h hlist))
  · intro hroom
    have hlists := fun name n => @isList_of_get?_eq_some dialect' capacities' text plan' h' name n
    simp only [isList_eq_of_compile hm h h'] at hlists
    exact Except.ok.inj (h'.symm.trans (compile_of_room_eq hm h hlists hroom))

theorem room_insert_capacity {name : Text} (hnone : capacities.get? name = none) (other : Text) :
    dialect.room (capacities.insert name dialect.capacity) other =
      dialect.room capacities other := by
  rw [Dialect.room, Dialect.room, Dict.get?_insert]
  split_ifs with hname
  · rw [hname, hnone]
    rfl
  · rfl

/-- A capacity that is the one of the dialect makes no difference. -/
theorem compile_insert_capacity_iff {name : Text} (hnone : capacities.get? name = none)
    (hlist : plan.isList name = true) :
    dialect.compile text (capacities.insert name dialect.capacity) = .ok plan ↔
      dialect.compile text capacities = .ok plan := by
  constructor
  · intro h
    refine compile_of_room_eq rfl h (fun other n hget => isList_of_get?_eq_some h ?_)
      fun other _ => (room_insert_capacity hnone other).symm
    rw [Dict.get?_insert, if_neg, hget]
    rintro rfl
    rw [hnone] at hget
    cases hget
  · intro h
    refine compile_of_room_eq rfl h (fun other n hget => ?_) fun other _ =>
      room_insert_capacity hnone other
    rw [Dict.get?_insert] at hget
    split_ifs at hget with hname
    · cases hget
      exact ⟨hname ▸ hlist, dialect.capacity_pos⟩
    · exact isList_of_get?_eq_some h hget

/-- The capacity of the dialect makes no difference if all lists have one of their own. -/
theorem compile_of_own_capacities (hm : dialect'.marker = dialect.marker)
    (hall : ∀ name, plan.isList name = true → capacities.get? name ≠ none)
    (h : dialect.compile text capacities = .ok plan) :
    dialect'.compile text capacities = .ok plan := by
  refine compile_of_room_eq hm h (fun _ _ => isList_of_get?_eq_some h) fun name hlist => ?_
  obtain ⟨n, hn⟩ := Option.ne_none_iff_exists'.mp (hall name hlist)
  rw [Dialect.room, Dialect.room, hn]
  rfl

/-- **Capacities matter by what they come to.** Two plans of one text have the same lists, and they
are equal exactly if the capacity of every list comes to the same. So a capacity that is the one of
the dialect makes no difference, and neither does the one of the dialect if all lists have a
capacity of their own. -/
theorem compile_eq_iff_room_eq (hm : dialect'.marker = dialect.marker) (text : Text) :
    (∀ capacities capacities' plan plan', dialect.compile text capacities = .ok plan →
      dialect'.compile text capacities' = .ok plan' →
        (∀ name, plan'.isList name = plan.isList name) ∧ (plan.Same plan' ↔ plan' = plan) ∧
        (plan' = plan ↔ ∀ name, plan.isList name = true →
          dialect'.room capacities' name = dialect.room capacities name)) ∧
    (∀ capacities name plan, capacities.get? name = none → plan.isList name = true →
      (dialect.compile text (capacities.insert name dialect.capacity) = .ok plan ↔
        dialect.compile text capacities = .ok plan)) ∧
    ∀ capacities plan, (∀ name, plan.isList name = true → capacities.get? name ≠ none) →
      (dialect'.compile text capacities = .ok plan ↔
        dialect.compile text capacities = .ok plan) := by
  refine ⟨fun capacities capacities' plan plan' h h' => ?_,
    fun _ _ _ => compile_insert_capacity_iff, fun capacities plan hall => ?_⟩
  · have hplan := (Dialect.layout_of_compile h).1
    have hplan' := (Dialect.layout_of_compile h').1
    exact ⟨isList_eq_of_compile hm h h', Plan.same_iff_eq hplan hplan',
      plan_eq_iff_room_eq hm h h'⟩
  · exact ⟨compile_of_own_capacities hm.symm hall, compile_of_own_capacities hm hall⟩

/-- The same capacities said in two ways, with a list of four and a list of three; and a capacity
that makes another plan. -/
theorem compile_eq_iff_room_eq_two_lists :
    let dialect : Dialect := ⟨⟨'$', 3⟩, by decide +kernel, by decide⟩
    let dialect' : Dialect := ⟨⟨'$', 4⟩, by decide +kernel, by decide⟩
    let text := "x IN $a OR y NOT LIKE_ANY $b".toList
    let capacities := Dict.empty.insert ['a'] 4
    let capacities' := Dict.empty.insert ['b'] 3
    let plan : Plan := ⟨text,
      "x IN (?, ?, ?, ?) OR y NOT LIKE ? AND y NOT LIKE ? AND y NOT LIKE ?".toList,
      ⟨7, [⟨['a'], .list 4, false⟩, ⟨['b'], .list 3, true⟩],
        [("a__0".toList, [1]), ("a__1".toList, [2]), ("a__2".toList, [3]), ("a__3".toList, [4]),
          ("b__0".toList, [5]), ("b__1".toList, [6]), ("b__2".toList, [7])]⟩⟩
    let other : Plan := ⟨text,
      ("x IN (?, ?, ?, ?) OR y NOT LIKE ? AND y NOT LIKE ? AND y NOT LIKE ?".toList ++
        " AND y NOT LIKE ?".toList),
      ⟨8, [⟨['a'], .list 4, false⟩, ⟨['b'], .list 4, true⟩],
        [("a__0".toList, [1]), ("a__1".toList, [2]), ("a__2".toList, [3]), ("a__3".toList, [4]),
          ("b__0".toList, [5]), ("b__1".toList, [6]), ("b__2".toList, [7]),
          ("b__3".toList, [8])]⟩⟩
    dialect'.marker = dialect.marker ∧ dialect.compile text capacities = .ok plan ∧
      dialect'.compile text capacities' = .ok plan ∧
      (∀ name, plan.isList name = true →
        dialect'.room capacities' name = dialect.room capacities name) ∧
      dialect.compile text (capacities.insert ['b'] 3) = .ok plan ∧
      dialect'.compile text (capacities.insert ['b'] 3) = .ok plan ∧
      dialect'.compile text capacities = .ok other ∧ ¬plan.Same other := by
  intro dialect dialect' text capacities capacities' plan other
  have hm : dialect'.marker = dialect.marker := rfl
  have h : dialect.compile text capacities = .ok plan := by decide +kernel
  have h' : dialect'.compile text capacities' = .ok plan := by decide +kernel
  obtain ⟨heq, hinsert, hall⟩ := compile_eq_iff_room_eq hm text
  have hown : dialect.compile text (capacities.insert ['b'] 3) = .ok plan :=
    (hinsert capacities ['b'] plan (by decide +kernel) (by decide +kernel)).mpr h
  have hother : dialect'.compile text capacities = .ok other := by decide +kernel
  refine ⟨hm, h, h', (heq _ _ _ _ h h').2.2.mp rfl, hown, ?_, hother, fun hsame => ?_⟩
  · refine (hall (capacities.insert ['b'] 3) plan fun name hlist => ?_).mpr hown
    rw [Dict.get?_insert, Dict.get?_insert]
    split_ifs with hb ha
    · exact Option.some_ne_none 3
    · exact Option.some_ne_none 4
    · simp [plan, Plan.isList, Plan.param?, Layout.param?, Ne.symm ha, Ne.symm hb] at hlist
  · exact absurd ((heq _ _ _ _ h hother).2.1.mp hsame) (by decide +kernel)

end

end NamedSql
