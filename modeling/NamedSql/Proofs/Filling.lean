import Mathlib.Logic.Function.Basic
import NamedSql.Binding
import NamedSql.Proofs.Uses

/-! # What a binding writes

A value fits a parameter in one way (`Param.Fits`), which gives one value for each of its keys. To
fill in such values changes the row of a binding key by key: what is written under a key stands at
all of its positions (`fill_map`). So the row is told by a value for each key
(`foldlM_fillParam_eq_ok_iff`), and where no scalar is called like an element of a list these are
the values that the parameters were bound to (`exists_of_bind`). -/

namespace NamedSql

open Layout

/-! ### One parameter -/

theorem Value.isList_eq_false {value : Value} (h : ∀ items, value ≠ .list items) :
    value.isList = false := by
  cases value with
  | list items => exact absurd rfl (h items)
  | _ => rfl

namespace Param

/-- The ways in which a value fits a parameter, with the values for its keys. -/
inductive Fits (param : Param) : Value → List (Text × Value) → Prop
  | scalar {value : Value} (hkind : param.kind = .scalar) (hvalue : value.isList = false) :
      Fits param value [(param.name, value)]
  | list {items : List Value} {capacity : Nat} (hkind : param.kind = .list capacity)
      (hitems : items.any Value.isList = false) (hlength : items.length ≤ capacity) :
      Fits param (.list items) ((List.range capacity).map fun i =>
        (slotKey param.name i, items[i]?.getD (param.padding items)))

variable {param : Param} {value : Value} {slots : List (Text × Value)}

theorem map_zipIdx_padded (param : Param) {items : List Value} {capacity : Nat}
    (h : items.length ≤ capacity) :
    (items ++ List.replicate (capacity - items.length) (param.padding items)).zipIdx.map
        (fun (item, i) => (slotKey param.name i, item)) =
      (List.range capacity).map fun i =>
        (slotKey param.name i, items[i]?.getD (param.padding items)) := by
  refine List.ext_getElem ?_ fun n h1 h2 => ?_
  · simp only [List.length_map, List.length_zipIdx, List.length_append, List.length_replicate,
      List.length_range]
    omega
  · rw [List.getElem_map, List.getElem_map, List.getElem_zipIdx, List.getElem_range, Nat.zero_add]
    by_cases hn : n < items.length
    · rw [List.getElem_append_left hn, List.getElem?_eq_getElem hn, Option.getD_some]
    · have hn' : items.length ≤ n := Nat.le_of_not_lt hn
      rw [List.getElem_append_right hn', List.getElem_replicate, List.getElem?_eq_none hn',
        Option.getD_none]

theorem fits_of_slots (h : param.slots value = .ok slots) : param.Fits value slots := by
  unfold Param.slots at h
  split at h
  · cases h
  · rename_i hkind hvalue
    cases h
    exact .scalar hkind (Value.isList_eq_false hvalue)
  · rename_i capacity items hkind
    split_ifs at h with hitems hlength
    cases h
    have hle : items.length ≤ capacity := Nat.le_of_not_lt hlength
    rw [map_zipIdx_padded param hle]
    exact .list hkind (by simpa using hitems) hle
  · cases h

theorem slots_of_fits (h : param.Fits value slots) : param.slots value = .ok slots := by
  cases h with
  | scalar hkind hvalue =>
    unfold Param.slots
    rw [hkind]
    cases value with
    | list items => cases hvalue
    | _ => rfl
  | @list items capacity hkind hitems hlength =>
    unfold Param.slots
    rw [hkind]
    dsimp only
    rw [if_neg (by rw [hitems]; exact Bool.false_ne_true), if_neg (Nat.not_lt.mpr hlength),
      map_zipIdx_padded param hlength]

theorem slots_eq_ok_iff : param.slots value = .ok slots ↔ param.Fits value slots :=
  ⟨fits_of_slots, slots_of_fits⟩

theorem Fits.of_scalar (h : param.Fits value slots) (hkind : param.kind = .scalar) :
    slots = [(param.name, value)] := by
  cases h with
  | scalar => rfl
  | list hkind' => rw [hkind] at hkind'; cases hkind'

theorem Fits.of_list (h : param.Fits value slots) {capacity : Nat}
    (hkind : param.kind = .list capacity) :
    ∃ items, value = .list items ∧ items.length ≤ capacity ∧
      slots = (List.range capacity).map fun i =>
        (slotKey param.name i, items[i]?.getD (param.padding items)) := by
  cases h with
  | scalar hkind' => rw [hkind] at hkind'; cases hkind'
  | list hkind' _ hlength =>
    rw [hkind] at hkind'
    cases hkind'
    exact ⟨_, rfl, hlength, rfl⟩

/-- Each key has a value, in order. -/
theorem Fits.map_fst (h : param.Fits value slots) : slots.map (·.1) = param.keys := by
  cases h with
  | scalar hkind => rw [Param.keys, hkind]; rfl
  | list hkind => rw [Param.keys, hkind, List.map_map]; rfl

end Param

/-! ### The row -/

theorem getElem?_foldl_set {α : Type} (v : α) (positions : List Nat) (row : List α) (n : Nat) :
    (positions.foldl (fun row position => row.set (position - 1) v) row)[n]? =
      if ∃ position ∈ positions, position - 1 = n then row[n]?.map fun _ => v else row[n]? := by
  induction positions generalizing row with
  | nil => simp
  | cons position positions ih =>
    rw [List.foldl_cons, ih, List.getElem?_set]
    by_cases h : position - 1 = n
    · subst h
      by_cases hlt : position - 1 < row.length <;> simp [hlt]
    · simp [h]

/-- What is written at the positions of a key changes what the row holds for this key. -/
theorem foldl_set_positionsOf (key : Text) (keys : List Text) (g : Text → Option Value)
    (v : Option Value) :
    (positionsOf key keys).foldl (fun row position => row.set (position - 1) v) (keys.map g) =
      keys.map (Function.update g key v) := by
  refine List.ext_getElem? fun n => ?_
  have hiff : (∃ position ∈ positionsOf key keys, position - 1 = n) ↔ keys[n]? = some key := by
    constructor
    · rintro ⟨position, hmem, rfl⟩
      obtain ⟨m, rfl, hm⟩ := mem_positionsOf.mp hmem
      exact hm
    · intro h
      exact ⟨n + 1, mem_positionsOf.mpr ⟨n, rfl, h⟩, rfl⟩
  rw [getElem?_foldl_set, List.getElem?_map, List.getElem?_map]
  split_ifs with h
  · rw [hiff.mp h]
    simp
  · cases hn : keys[n]? with
    | none => rfl
    | some other =>
      have hne : other ≠ key := fun heq => h (hiff.mpr (heq ▸ hn))
      simp [Function.update_of_ne hne]

/-- The values for keys after some more were written, of which the last one counts. -/
def written (g : Text → Option Value) (slots : List (Text × Value)) : Text → Option Value :=
  slots.foldl (fun g slot => Function.update g slot.1 (some slot.2)) g

theorem written_append (g : Text → Option Value) (slots more : List (Text × Value)) :
    written g (slots ++ more) = written (written g slots) more := List.foldl_append

theorem written_of_not_mem {g : Text → Option Value} {slots : List (Text × Value)} {key : Text}
    (h : key ∉ slots.map (·.1)) : written g slots key = g key := by
  induction slots generalizing g with
  | nil => rfl
  | cons slot slots ih =>
    rw [List.map_cons, List.mem_cons, not_or] at h
    rw [written, List.foldl_cons, ← written, ih h.2, Function.update_of_ne h.1]

/-- A key under which something was written has one of the values written under it. -/
theorem exists_written_eq_some {g : Text → Option Value} {slots : List (Text × Value)} {key : Text}
    (h : key ∈ slots.map (·.1)) :
    ∃ slot ∈ slots, slot.1 = key ∧ written g slots key = some slot.2 := by
  induction slots generalizing g with
  | nil => exact absurd h List.not_mem_nil
  | cons first slots ih =>
    rw [written, List.foldl_cons, ← written]
    by_cases hlater : key ∈ slots.map (·.1)
    · obtain ⟨slot, hslot, heq, hwritten⟩ := ih hlater
      exact ⟨slot, List.mem_cons_of_mem _ hslot, heq, hwritten⟩
    · have heq : key = first.1 := by simpa [hlater] using h
      refine ⟨first, List.mem_cons_self, heq.symm, ?_⟩
      rw [written_of_not_mem hlater, heq, Function.update_self]

theorem written_of_mem {g : Text → Option Value} {slots : List (Text × Value)}
    (hnodup : (slots.map (·.1)).Nodup) {slot : Text × Value} (h : slot ∈ slots) :
    written g slots slot.1 = some slot.2 := by
  obtain ⟨other, hother, hkey, hwritten⟩ :=
    exists_written_eq_some (g := g) (List.mem_map_of_mem h)
  rw [hwritten, List.inj_on_of_nodup_map hnodup hother h hkey]

section

variable {plan : Plan} {uses : List Param} (hplan : plan.layout = ofUses uses)
include hplan

theorem positions_eq_ok {key : Text} (hkey : key ∈ uses.flatMap Param.keys) :
    plan.positions key = .ok (positionsOf key (uses.flatMap Param.keys)) := by
  rw [Plan.positions, hplan, positions?_ofUses hkey]

theorem fill_map (g : Text → Option Value) {slot : Text × Value}
    (h : slot.1 ∈ uses.flatMap Param.keys) :
    plan.fill ((uses.flatMap Param.keys).map g) slot =
      .ok ((uses.flatMap Param.keys).map (Function.update g slot.1 (some slot.2))) := by
  rw [Plan.fill, positions_eq_ok hplan h]
  exact congrArg Except.ok (foldl_set_positionsOf _ _ _ _)

theorem foldlM_fill (g : Text → Option Value) {slots : List (Text × Value)}
    (h : ∀ slot ∈ slots, slot.1 ∈ uses.flatMap Param.keys) :
    slots.foldlM plan.fill ((uses.flatMap Param.keys).map g) =
      .ok ((uses.flatMap Param.keys).map (written g slots)) := by
  induction slots generalizing g with
  | nil => rfl
  | cons slot slots ih =>
    obtain ⟨hslot, hslots⟩ := List.forall_mem_cons.mp h
    rw [List.foldlM_cons, fill_map hplan g hslot]
    exact ih _ hslots

end

/-! ### Keys of two parameters -/

/-- No scalar of the plan is called like an element of one of its lists. -/
def Plan.Unambiguous (plan : Plan) : Prop :=
  ∀ scalar ∈ plan.params, scalar.kind = .scalar →
    ∀ list ∈ plan.params, ∀ i < list.capacity?.getD 0, scalar.name ≠ slotKey list.name i

instance (plan : Plan) : Decidable plan.Unambiguous := by
  unfold Plan.Unambiguous; infer_instance

/-- A plan is unambiguous exactly if no key belongs to parameters of two names. -/
theorem Plan.unambiguous_iff {plan : Plan} : plan.Unambiguous ↔
    ∀ a ∈ plan.params, ∀ b ∈ plan.params, ∀ key ∈ a.keys, key ∈ b.keys → a.name = b.name := by
  constructor
  · intro hclash
    have hfree : ∀ scalar ∈ plan.params, scalar.kind = .scalar → ∀ list ∈ plan.params,
        ∀ capacity, list.kind = .list capacity → ∀ i < capacity,
          scalar.name ≠ slotKey list.name i := by
      intro scalar hscalar hkind list hlist capacity hcap i hi
      refine hclash scalar hscalar hkind list hlist i ?_
      rw [Param.capacity?, hcap]
      exact hi
    intro a ha b hb key hkeya hkeyb
    rcases Param.mem_keys.mp hkeya with ⟨hkinda, rfl⟩ | ⟨n, hkinda, i, hi, rfl⟩
    · rcases Param.mem_keys.mp hkeyb with ⟨-, hname⟩ | ⟨m, hkindb, j, hj, hname⟩
      · exact hname
      · exact absurd hname (hfree a ha hkinda b hb m hkindb j hj)
    · rcases Param.mem_keys.mp hkeyb with ⟨hkindb, hname⟩ | ⟨m, hkindb, j, hj, hname⟩
      · exact absurd hname.symm (hfree b hb hkindb a ha n hkinda i hi)
      · exact (eq_of_slotKey_eq hname).1
  · intro hshared scalar hscalar hkind list hlist i hi heq
    have hkeya : scalar.name ∈ scalar.keys := Param.mem_keys.mpr (Or.inl ⟨hkind, rfl⟩)
    have hkeyb : scalar.name ∈ list.keys := by
      rw [Param.capacity?] at hi
      cases hcap : list.kind with
      | scalar => rw [hcap] at hi; cases hi
      | list capacity =>
        rw [hcap] at hi
        exact Param.mem_keys.mpr (Or.inr ⟨capacity, hcap, i, hi, heq⟩)
    -- a slot key is longer than the name of its list
    have hlength := congrArg List.length (heq.symm.trans (hshared _ hscalar _ hlist _ hkeya hkeyb))
    simp [slotKey] at hlength

/-! ### All parameters -/

namespace Param

/-- The values for the keys of a parameter, if it can be bound. -/
def slotList (bindings : Bindings) (param : Param) : List (Text × Value) :=
  match param.slotsIn bindings with
  | .ok slots => slots
  | .error _ => []

/-- The parameter is bound to a value that fits. -/
def IsBound (bindings : Bindings) (param : Param) : Prop :=
  ∃ value, bindings.get? param.name = some value ∧ param.Fits value (param.slotList bindings)

theorem slotList_of_slotsIn {bindings : Bindings} {param : Param} {slots : List (Text × Value)}
    (h : param.slotsIn bindings = .ok slots) : param.slotList bindings = slots := by
  rw [slotList, h]

theorem isBound_of_slotsIn {bindings : Bindings} {param : Param} {slots : List (Text × Value)}
    (h : param.slotsIn bindings = .ok slots) : param.IsBound bindings := by
  have hslots := slotList_of_slotsIn h
  unfold slotsIn at h
  split at h
  · cases h
  · rename_i value hvalue
    exact ⟨value, hvalue, hslots ▸ fits_of_slots h⟩

/-- Values are written under the keys of their parameter. -/
theorem mem_keys_of_slotsIn {bindings : Bindings} {param : Param} {slots : List (Text × Value)}
    (h : param.slotsIn bindings = .ok slots) {slot : Text × Value} (hslot : slot ∈ slots) :
    slot.1 ∈ param.keys := by
  obtain ⟨value, -, hfits⟩ := isBound_of_slotsIn h
  rw [slotList_of_slotsIn h] at hfits
  rw [← hfits.map_fst]
  exact List.mem_map_of_mem hslot

theorem isBound_iff {bindings : Bindings} {param : Param} :
    param.IsBound bindings ↔ ∃ slots, param.slotsIn bindings = .ok slots := by
  constructor
  · rintro ⟨value, hvalue, hfits⟩
    refine ⟨param.slotList bindings, ?_⟩
    rw [slotsIn, hvalue]
    exact slots_of_fits hfits
  · rintro ⟨slots, hslots⟩
    exact isBound_of_slotsIn hslots

theorem IsBound.map_fst {bindings : Bindings} {param : Param} (h : param.IsBound bindings) :
    (param.slotList bindings).map (·.1) = param.keys := by
  obtain ⟨value, -, hfits⟩ := h
  exact hfits.map_fst

end Param

section

variable {plan : Plan} {uses : List Param} (hplan : plan.layout = ofUses uses) {bindings : Bindings}
include hplan

omit bindings in
/-- Before anything is written, no key has a value. -/
theorem replicate_placeholders :
    List.replicate plan.placeholders (none : Option Value) =
      (uses.flatMap Param.keys).map fun _ => none := by
  rw [Plan.placeholders, hplan, List.map_const']
  rfl

omit bindings in
/-- The keys of the parameters are those that were used. -/
theorem keys_subset (hu : Uniform uses) {param : Param} (hparam : param ∈ plan.params) :
    ∀ key ∈ param.keys, key ∈ uses.flatMap Param.keys := fun key hkey => by
  rw [Plan.params, hplan] at hparam
  exact (mem_flatMap_keys hu).mpr ⟨param, hparam, hkey⟩

/-- One parameter writes its values, unless it cannot be bound. -/
theorem fillParam_map (g : Text → Option Value) {param : Param}
    (hkeys : ∀ key ∈ param.keys, key ∈ uses.flatMap Param.keys) :
    plan.fillParam bindings ((uses.flatMap Param.keys).map g) param =
      (param.slotsIn bindings).map fun slots =>
        (uses.flatMap Param.keys).map (written g slots) := by
  rw [Plan.fillParam]
  cases hslots : param.slotsIn bindings with
  | error e => rfl
  | ok slots =>
    exact foldlM_fill hplan g fun slot hslot => hkeys _ (Param.mem_keys_of_slotsIn hslots hslot)

/-- Parameters are filled in if all of them are bound, and then the row holds their values. -/
theorem foldlM_fillParam_eq_ok_iff {params : List Param} {g : Text → Option Value}
    {row : List (Option Value)}
    (hkeys : ∀ param ∈ params, ∀ key ∈ param.keys, key ∈ uses.flatMap Param.keys) :
    params.foldlM (plan.fillParam bindings) ((uses.flatMap Param.keys).map g) = .ok row ↔
      (∀ param ∈ params, param.IsBound bindings) ∧
        row = (uses.flatMap Param.keys).map
          (written g (params.flatMap (Param.slotList bindings))) := by
  induction params generalizing g with
  | nil => simp [written, pure, Except.pure, eq_comm]
  | cons param params ih =>
    obtain ⟨hparam, hparams⟩ := List.forall_mem_cons.mp hkeys
    rw [List.foldlM_cons, fillParam_map hplan g hparam, List.forall_mem_cons,
      Param.isBound_iff]
    cases hslots : param.slotsIn bindings with
    | error e => simp [Except.map, bind, Except.bind]
    | ok slots =>
      rw [List.flatMap_cons, written_append, Param.slotList_of_slotsIn hslots]
      refine (ih hparams).trans (and_congr_left fun _ => ?_)
      exact (and_iff_right ⟨slots, rfl⟩).symm

/-- No key belongs to two parameters, or twice to one. -/
theorem nodup_keys (hclash : plan.Unambiguous) : (plan.params.flatMap Param.keys).Nodup := by
  have hnames : plan.params.Pairwise fun a b => a.name ≠ b.name := by
    rw [← List.pairwise_map, Plan.params, hplan]
    exact nodup_names_ofUses uses
  refine List.nodup_flatMap.mpr ⟨fun param _ => param.nodup_keys, ?_⟩
  refine hnames.imp_of_mem fun {a b} ha hb hne key hkeya hkeyb => hne ?_
  exact Plan.unambiguous_iff.mp hclash a ha b hb key hkeya hkeyb

/-- What is written in the end under a key of a parameter is the value for it. -/
theorem written_flatMap (hclash : plan.Unambiguous)
    (hbound : ∀ param ∈ plan.params, param.IsBound bindings) (g : Text → Option Value)
    {param : Param} (hparam : param ∈ plan.params) {slot : Text × Value}
    (hslot : slot ∈ param.slotList bindings) :
    written g (plan.params.flatMap (Param.slotList bindings)) slot.1 = some slot.2 := by
  have hkeys : (plan.params.flatMap (Param.slotList bindings)).map (·.1) =
      plan.params.flatMap Param.keys := by
    rw [List.map_flatMap, List.flatMap_def, List.flatMap_def]
    exact congrArg _ (List.map_congr_left fun param hparam => (hbound param hparam).map_fst)
  refine written_of_mem ?_ (List.mem_flatMap_of_mem hparam hslot)
  rw [hkeys]
  exact nodup_keys hplan hclash

/-- **A binding succeeds** if no name is unknown and all parameters are bound, and then each key has
the value that was written under it last. -/
theorem bind_eq_ok_iff (hu : Uniform uses) {arguments : Arguments} :
    plan.bind bindings = .ok arguments ↔
      plan.unknownName? bindings = none ∧ (∀ param ∈ plan.params, param.IsBound bindings) ∧
        arguments.values = (uses.flatMap Param.keys).map fun key =>
          (written (fun _ => none) (plan.params.flatMap (Param.slotList bindings)) key).getD
            .null := by
  have hfold := fun row => @foldlM_fillParam_eq_ok_iff _ _ hplan bindings plan.params
    (fun _ => none) row fun _ => keys_subset hplan hu
  rw [← replicate_placeholders hplan] at hfold
  obtain ⟨values⟩ := arguments
  unfold Plan.bind
  cases plan.unknownName? bindings with
  | some name => simp
  | none =>
    dsimp only
    cases hrow : plan.params.foldlM (plan.fillParam bindings)
        (List.replicate plan.placeholders none) with
    | error e =>
      simp only [hrow, reduceCtorEq, false_iff] at hfold ⊢
      rintro ⟨-, hbound, -⟩
      exact hfold _ ⟨hbound, rfl⟩
    | ok row =>
      obtain ⟨hbound, rfl⟩ := (hfold row).mp hrow
      simp only [List.map_map, Except.ok.injEq, Arguments.mk.injEq, true_and]
      exact ⟨fun h => ⟨hbound, h.symm⟩, fun h => h.2.symm⟩

/-- **The values of a binding** are told by a value for each key, and where no scalar is called
like an element of a list, every use of a parameter shows the values that it is bound to. -/
theorem exists_of_bind (hu : Uniform uses) (hclash : plan.Unambiguous) {arguments : Arguments}
    (h : plan.bind bindings = .ok arguments) :
    ∃ val : Text → Value, arguments.values = (uses.flatMap Param.keys).map val ∧
      ∀ use ∈ uses, ∃ value, bindings.get? use.name = some value ∧
        (merge uses use.name).Fits value (use.keys.map fun key => (key, val key)) := by
  obtain ⟨-, hbound, hvalues⟩ := (bind_eq_ok_iff hplan hu).mp h
  refine ⟨_, hvalues, fun use huse => ?_⟩
  have hmem : merge uses use.name ∈ plan.params := by
    rw [Plan.params, hplan]
    exact merge_mem_ofUses huse
  obtain ⟨value, hvalue, hfits⟩ := hbound _ hmem
  refine ⟨value, hvalue, ?_⟩
  have hslots : use.keys.map (fun key => (key, (written (fun _ => none)
      (plan.params.flatMap (Param.slotList bindings)) key).getD .null)) =
        (merge uses use.name).slotList bindings := by
    rw [← keys_merge hu huse, ← hfits.map_fst, List.map_map]
    refine (List.map_congr_left fun slot hslot => ?_).trans (List.map_id _)
    rw [Function.comp, written_flatMap hplan hclash hbound _ hmem hslot]
    rfl
  rw [hslots]
  exact hfits

end

end NamedSql
