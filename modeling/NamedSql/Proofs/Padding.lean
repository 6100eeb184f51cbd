import NamedSql.Proofs.Coverage
import NamedSql.Proofs.QuestionMarks
import NamedSql.Proofs.Rendering
import NamedSql.Proofs.Truth

/-! # Padding does not change what a condition means

A condition on a list compares a field with one argument after the other, in a disjunction, or where
it is negated in a conjunction of negations. The list may have fewer elements than arguments, and
the others are padding: NULL, or if the parameter is negated somewhere, the last element.

The steps of a compilation visit one reference after the other, and each visit makes one use of its
parameter (`foldlM_add_run`). So the arguments lie in blocks, one for each visit, and the block of a
list holds its elements and the padding behind them (`exists_shown_eq`). A comparison with NULL is
unknown, so padding with NULL never makes a disjunction hold; and an element that is repeated
changes nothing at all (`any_shown_eq`). -/

namespace NamedSql

open Layout

/-! ### The uses of a run -/

/-- The use that a visit makes of its parameter. -/
def Visit.use (dialect : Dialect) (capacities : Dict Nat) (visit : Visit) : Param :=
  ⟨visit.name, visit.context.kind (dialect.room capacities visit.name), visit.context.negated⟩

namespace Dialect

variable {dialect : Dialect} {capacities : Dict Nat}

/-- An expansion adds the use of its reference. -/
theorem Expands.add_use {finished : Nat} {behind name behind' : Text} {layout layout' : Layout}
    {context : Context}
    (h : dialect.Expands capacities finished behind layout name context behind' layout') :
    layout.add ⟨name, context.kind (dialect.room capacities name), context.negated⟩ =
      .ok layout' := by
  cases h with
  | scalar _ hadd => exact hadd
  | inList hcap hadd =>
    rw [room_of_capacityOf hcap]
    exact hadd
  | likeAny _ _ hcap hadd =>
    rw [room_of_capacityOf hcap]
    exact hadd

/-- **One step** visits the first name ahead, and adds the use that the visit makes. -/
theorem add_use_of_step? {draft next : Draft} {visit : Visit}
    (h : dialect.step? capacities draft = some (visit, .ok next)) :
    draft.layout.add (visit.use dialect capacities) = .ok next.layout ∧
      Reference.names dialect.marker draft.ahead =
        visit.name :: Reference.names dialect.marker next.ahead := by
  obtain ⟨r, hr, htail, hexpands⟩ := exists_of_step? h
  obtain rfl := visit_of_step? hr h
  rw [Reference.names_of_some hr, htail]
  exact ⟨hexpands.add_use, rfl⟩

/-- **A run** visits all names ahead, and adds the uses of its visits one by one. -/
theorem foldlM_add_run {draft last : Draft} (h : (dialect.run capacities draft).2 = .ok last) :
    ((dialect.run capacities draft).1.map (Visit.use dialect capacities)).foldlM Layout.add
        draft.layout = .ok last.layout ∧
      Reference.names dialect.marker draft.ahead =
        (dialect.run capacities draft).1.map (·.name) := by
  refine run_induction (motive := fun draft visits =>
    (visits.map (Visit.use dialect capacities)).foldlM Layout.add draft.layout =
        .ok last.layout ∧
      Reference.names dialect.marker draft.ahead = visits.map (·.name)) (fun hnone => ?_) ?_ h
  · exact ⟨rfl, Reference.names_of_none (first?_of_step?_eq_none hnone)⟩
  · rintro draft next visit visits hstep ⟨hfold, hnames⟩
    obtain ⟨hadd, hname⟩ := add_use_of_step? hstep
    refine ⟨?_, by rw [hname, hnames, List.map_cons]⟩
    rw [List.map_cons, List.foldlM_cons, hadd]
    exact hfold

/-- The references of a text as its compilation visits them. -/
def visits (dialect : Dialect) (capacities : Dict Nat) (text : Text) : List Visit :=
  (dialect.run capacities (.ofText text)).1

/-- The layout of a plan is the table of the uses that the visits make. -/
theorem layout_of_compile {text : Text} {plan : Plan}
    (h : dialect.compile text capacities = .ok plan) :
    plan.layout = ofUses ((dialect.visits capacities text).map (Visit.use dialect capacities)) ∧
      Uniform ((dialect.visits capacities text).map (Visit.use dialect capacities)) ∧
      Reference.names dialect.marker text = (dialect.visits capacities text).map (·.name) := by
  obtain ⟨last, hlast, rfl⟩ := exists_of_compile h
  obtain ⟨hfold, hnames⟩ := foldlM_add_run hlast
  rw [Draft.ofText, ← ofUses_nil] at hfold
  obtain ⟨hlayout, huniform⟩ := of_foldlM_add (fun _ h => absurd h List.not_mem_nil) hfold
  exact ⟨hlayout, huniform, hnames⟩

end Dialect

/-! ### Blocks of arguments -/

namespace Plan

/-- The number of placeholders that some visits take. -/
def offset (plan : Plan) (before : List Visit) : Nat :=
  (before.map fun visit => plan.width visit.name).sum

/-- The arguments for the placeholders of a visit, behind those of the visits before it. -/
def shown (plan : Plan) (arguments : Arguments) (before : List Visit) (visit : Visit) :
    List Value :=
  (arguments.values.drop (plan.offset before)).take (plan.width visit.name)

end Plan

theorem take_drop_flatMap {α β : Type} (f : α → List β) (earlier later : List α) (a : α) :
    (((earlier ++ a :: later).flatMap f).drop (earlier.flatMap f).length).take (f a).length =
      f a := by
  rw [List.flatMap_append, List.flatMap_cons, List.drop_left, List.take_left]

/-- A list and its padding. -/
theorem Param.padded_eq (param : Param) {items : List Value} {capacity : Nat}
    (h : items.length ≤ capacity) :
    ((List.range capacity).map fun i => items[i]?.getD (param.padding items)) =
      items ++ List.replicate (capacity - items.length) (param.padding items) := by
  have hpadded := congrArg (List.map (·.2)) (map_zipIdx_padded param h)
  rw [List.map_map, List.map_map] at hpadded
  exact hpadded.symm.trans (List.zipIdx_map_fst _ _)

section

variable {plan : Plan} {uses : List Param} (hplan : plan.layout = ofUses uses)
include hplan

/-- A parameter is what all its uses say of it. -/
theorem merge_of_mem_params {param : Param} (hparam : param ∈ plan.params) :
    (∃ use ∈ uses, use.name = param.name) ∧ merge uses param.name = param := by
  rw [Plan.params, hplan] at hparam
  obtain ⟨hname, hmerge⟩ := name_of_mem_ofUses hparam
  exact ⟨List.mem_map.mp hname, hmerge⟩

/-- A parameter is negated if one of its uses is. -/
theorem negated_iff {param : Param} (hparam : param ∈ plan.params) :
    param.negated = true ↔ ∃ use ∈ uses, use.name = param.name ∧ use.negated = true := by
  rw [← (merge_of_mem_params hplan hparam).2]
  simp [merge]

/-- If every use shows values that fit, those of a list show its elements and the padding. -/
theorem exists_map_keys_eq {bindings : Bindings} {val : Text → Value}
    (hfits : ∀ use ∈ uses, ∃ value, bindings.get? use.name = some value ∧
      (merge uses use.name).Fits value (use.keys.map fun key => (key, val key)))
    {param : Param} (hparam : param ∈ plan.params) {capacity : Nat}
    (hkind : param.kind = .list capacity) :
    ∃ items, bindings.get? param.name = some (.list items) ∧ items.length ≤ capacity ∧
      ∀ use ∈ uses, use.name = param.name → use.keys.map val =
        items ++ List.replicate (capacity - items.length) (param.padding items) := by
  obtain ⟨⟨first, hfirst, hname⟩, hmerge⟩ := merge_of_mem_params hplan hparam
  have hlist : ∀ use ∈ uses, use.name = param.name → ∃ items,
      bindings.get? param.name = some (.list items) ∧ items.length ≤ capacity ∧
        use.keys.map val =
          items ++ List.replicate (capacity - items.length) (param.padding items) := by
    intro use huse hname
    obtain ⟨value, hvalue, hfit⟩ := hfits use huse
    rw [hname] at hvalue
    rw [hname, hmerge] at hfit
    obtain ⟨items, rfl, hlength, hslots⟩ := hfit.of_list hkind
    have hvals := congrArg (List.map (·.2)) hslots
    rw [List.map_map, List.map_map] at hvals
    exact ⟨items, hvalue, hlength, hvals.trans (param.padded_eq hlength)⟩
  obtain ⟨items, hitems, hlength, -⟩ := hlist first hfirst hname
  refine ⟨items, hitems, hlength, fun use huse hname => ?_⟩
  obtain ⟨items', hitems', -, hvals⟩ := hlist use huse hname
  rw [hitems] at hitems'
  cases hitems'
  exact hvals

theorem keys_of_name_eq (hu : Uniform uses) {param use : Param} (hparam : param ∈ plan.params)
    (huse : use ∈ uses) (hname : use.name = param.name) : use.keys = param.keys := by
  rw [← keys_merge hu huse, hname, (merge_of_mem_params hplan hparam).2]

end

variable {dialect : Dialect} {capacities : Dict Nat}

/-- Visits take a placeholder for each key of their uses. -/
theorem offset_eq {plan : Plan} {visits : List Visit}
    (hplan : plan.layout = ofUses (visits.map (Visit.use dialect capacities)))
    (hu : Uniform (visits.map (Visit.use dialect capacities))) {before : List Visit}
    (hbefore : ∀ visit ∈ before, visit ∈ visits) :
    plan.offset before =
      ((before.map (Visit.use dialect capacities)).flatMap Param.keys).length := by
  rw [Plan.offset, List.length_flatMap, List.map_map]
  refine congrArg List.sum (List.map_congr_left fun visit hvisit => ?_)
  exact width_eq_of_mem hplan hu
    (List.mem_map_of_mem (f := Visit.use dialect capacities) (hbefore visit hvisit))

/-- **The block of a list** holds its elements and the padding behind them. -/
theorem exists_shown_eq {text : Text} {plan : Plan}
    (h : dialect.compile text capacities = .ok plan) (hclash : plan.Unambiguous)
    {bindings : Bindings} {arguments : Arguments} (hb : plan.bind bindings = .ok arguments)
    {param : Param} (hparam : param ∈ plan.params) {capacity : Nat}
    (hkind : param.kind = .list capacity) :
    ∃ items, bindings.get? param.name = some (.list items) ∧ items.length ≤ capacity ∧
      ∀ before visit after, dialect.visits capacities text = before ++ visit :: after →
        visit.name = param.name →
          plan.shown arguments before visit =
              items ++ List.replicate (capacity - items.length) (param.padding items) ∧
            ∀ i < capacity, ∃ positions, plan.positions (slotKey param.name i) = .ok positions ∧
              plan.offset before + i + 1 ∈ positions := by
  obtain ⟨hplan, hu, -⟩ := Dialect.layout_of_compile h
  obtain ⟨val, hvalues, hfits⟩ := exists_of_bind hplan hu hclash hb
  obtain ⟨items, hitems, hlength, hlist⟩ := exists_map_keys_eq hplan hfits hparam hkind
  refine ⟨items, hitems, hlength, fun before visit after hvisits hname => ?_⟩
  have hmem : visit ∈ dialect.visits capacities text :=
    hvisits ▸ List.mem_append_right _ List.mem_cons_self
  have huse := List.mem_map_of_mem (f := Visit.use dialect capacities) hmem
  have hwidth : plan.width visit.name = (visit.use dialect capacities).keys.length :=
    width_eq_of_mem hplan hu huse
  have hoffset := @offset_eq _ _ _ _ hplan hu before fun v hv =>
    hvisits ▸ List.mem_append_left _ hv
  have huses : (dialect.visits capacities text).map (Visit.use dialect capacities) =
      before.map (Visit.use dialect capacities) ++ visit.use dialect capacities ::
        after.map (Visit.use dialect capacities) := by
    rw [hvisits, List.map_append, List.map_cons]
  constructor
  · rw [← hlist _ huse hname, Plan.shown, hvalues, hoffset, hwidth, ← List.map_drop,
      ← List.map_take, huses, take_drop_flatMap]
  · intro i hi
    have hkey : (visit.use dialect capacities).keys[i]? = some (slotKey param.name i) := by
      rw [keys_of_name_eq hplan hu hparam huse hname, Param.keys, hkind, List.getElem?_map,
        List.getElem?_range hi]
      rfl
    have hused := List.mem_flatMap_of_mem huse (List.mem_of_getElem? hkey)
    refine ⟨_, positions_eq_ok hplan hused, mem_positionsOf.mpr ⟨_, rfl, ?_⟩⟩
    exact getElem?_flatMap_eq_some_iff.mpr ⟨_, _, _, i, huses, hkey, by rw [hoffset]⟩

/-! ### Conditions on a block -/

section

variable {param : Param} {items : List Value} {c : Value → Truth}

theorem padding_of_not_negated (h : param.negated = false) : param.padding items = .null := by
  rw [Param.padding, h]
  rfl

theorem padding_mem (h : param.negated = true) (hitems : items ≠ []) :
    param.padding items ∈ items := by
  rw [Param.padding, if_pos h, List.getLast?_eq_some_getLast hitems, Option.getD_some]
  exact List.getLast_mem hitems

/-- Padding that is NULL does not make a condition hold. -/
theorem any_map_padded_eq_holds_iff (hneg : param.negated = false) (hc : c .null = .unknown)
    (n : Nat) :
    Truth.any ((items ++ List.replicate n (param.padding items)).map c) = .holds ↔
      Truth.any (items.map c) = .holds := by
  rw [padding_of_not_negated hneg, List.map_append, List.map_replicate, hc]
  exact Truth.any_append_unknown_eq_holds_iff _ _

/-- Padding that is an element changes no condition. -/
theorem any_map_padded (hneg : param.negated = true) (hitems : items ≠ []) (n : Nat) :
    Truth.any ((items ++ List.replicate n (param.padding items)).map c) =
      Truth.any (items.map c) := by
  rw [List.map_append, List.map_replicate]
  exact Truth.any_append_replicate (List.mem_map_of_mem (padding_mem hneg hitems)) n

end

theorem all_map_not_eq (c : Value → Truth) (values : List Value) :
    Truth.all (values.map fun value => (c value).not) = (Truth.any (values.map c)).not := by
  rw [← Truth.all_map_not, List.map_map]
  rfl

/-- **Padding does not change what a condition means.** Let `c` tell the truth of a condition on a
value, which is unknown for NULL. In a plan in which no scalar is called like an element of a list,
take a list, and any reference to it. The arguments for this reference are as many as the list has
room for. If the list is negated nowhere, one of them satisfies the condition exactly if an element
does. If it is negated somewhere and has elements, then the disjunction of the condition over the
arguments, and the conjunction of its negation, are the same as those over the elements, also for
references that are not negated themselves. So none of these depends on the capacity. -/
theorem any_shown_eq {text : Text} {plan : Plan}
    (h : dialect.compile text capacities = .ok plan) (hclash : plan.Unambiguous)
    {bindings : Bindings} {arguments : Arguments} (hb : plan.bind bindings = .ok arguments)
    {param : Param} (hparam : param ∈ plan.params) {capacity : Nat}
    (hkind : param.kind = .list capacity) {c : Value → Truth} (hc : c .null = .unknown) :
    Reference.names dialect.marker text = (dialect.visits capacities text).map (·.name) ∧
      (param.negated = true ↔ ∃ visit ∈ dialect.visits capacities text,
        visit.name = param.name ∧ visit.context.negated = true) ∧
      ∃ items, bindings.get? param.name = some (.list items) ∧ items.length ≤ capacity ∧
        ∀ before visit after, dialect.visits capacities text = before ++ visit :: after →
          visit.name = param.name →
            (∀ i < capacity, ∃ positions, plan.positions (slotKey param.name i) = .ok positions ∧
              plan.offset before + i + 1 ∈ positions) ∧
            (plan.shown arguments before visit).length = capacity ∧
            (param.negated = false →
              (Truth.any ((plan.shown arguments before visit).map c) = .holds ↔
                Truth.any (items.map c) = .holds)) ∧
            (param.negated = true → items ≠ [] →
              Truth.any ((plan.shown arguments before visit).map c) = Truth.any (items.map c) ∧
              Truth.all ((plan.shown arguments before visit).map fun value => (c value).not) =
                Truth.all (items.map fun value => (c value).not)) := by
  obtain ⟨hplan, -, hnames⟩ := Dialect.layout_of_compile h
  obtain ⟨items, hitems, hlength, hblocks⟩ := exists_shown_eq h hclash hb hparam hkind
  refine ⟨hnames, ?_, items, hitems, hlength, fun before visit after hvisits hname => ?_⟩
  · rw [negated_iff hplan hparam]
    simp only [List.mem_map, exists_exists_and_eq_and]
    rfl
  · obtain ⟨hshown, hpositions⟩ := hblocks before visit after hvisits hname
    rw [hshown, all_map_not_eq, all_map_not_eq]
    refine ⟨hpositions, ?_, fun hneg => any_map_padded_eq_holds_iff hneg hc _,
      fun hneg hne => ?_⟩
    · rw [List.length_append, List.length_replicate]
      omega
    · rw [any_map_padded hneg hne]
      exact ⟨rfl, rfl⟩

/-- The condition to be true, for a list of which one reference is negated and one is not. As it is
padded with its element for both of them, the second one fails, where NULL would leave it
unknown. -/
theorem any_shown_eq_not_in :
    let text := "x NOT IN :a OR y IN :a".toList
    let capacities := Dict.empty.insert ['a'] 2
    let param : Param := ⟨['a'], .list 2, true⟩
    let plan : Plan := ⟨text, "x NOT IN (?, ?) OR y IN (?, ?)".toList,
      ⟨4, [param], [("a__0".toList, [1, 3]), ("a__1".toList, [2, 4])]⟩⟩
    let bindings := Dict.ofList [(['a'], .list [.bool false])]
    let arguments : Arguments := ⟨List.replicate 4 (.bool false)⟩
    let first : Visit := ⟨['a'], .inList true, 9⟩
    let second : Visit := ⟨['a'], .inList false, 24⟩
    let c := fun value : Value => if value.equal .null then Truth.unknown else
      if value.equal (.bool true) then .holds else .fails
    Dialect.standard.compile text capacities = .ok plan ∧ plan.Unambiguous ∧
      plan.bind bindings = .ok arguments ∧ param ∈ plan.params ∧ param.kind = .list 2 ∧
      c .null = .unknown ∧ Dialect.standard.visits capacities text = [first, second] ∧
      Truth.any ((plan.shown arguments [first] second).map c) = .fails := by
  intro text capacities param plan bindings arguments first second c
  have h : Dialect.standard.compile text capacities = .ok plan := by decide +kernel
  have hclash : plan.Unambiguous := by decide +kernel
  have hb : plan.bind bindings = .ok arguments := rfl
  have hparam : param ∈ plan.params := List.mem_singleton_self _
  have hkind : param.kind = .list 2 := rfl
  have hc : c .null = .unknown := by decide +kernel
  have hvisits : Dialect.standard.visits capacities text = [first, second] := by decide +kernel
  obtain ⟨-, -, items, hitems, -, hblocks⟩ := any_shown_eq h hclash hb hparam hkind hc
  obtain rfl : [.bool false] = items := Value.list.inj (Option.some.inj hitems)
  obtain ⟨-, -, -, hnegated⟩ := hblocks [first] second [] hvisits rfl
  refine ⟨h, hclash, hb, hparam, hkind, hc, hvisits, ?_⟩
  rw [(hnegated rfl (List.cons_ne_nil _ _)).1]
  decide +kernel

end NamedSql
