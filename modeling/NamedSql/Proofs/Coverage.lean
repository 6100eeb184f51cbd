import NamedSql.Proofs.Binding

/-! # Every place of a row is filled

The keys that a binding writes under are those of the parameters, and the layout has positions for
all of them, which lie in the row (`exists_fill_eq_ok`). So a binding never misses a key: a name
that it calls unknown is one that has a value and that the template does not refer to.

The other way round, every position belongs to a key of a parameter, under which something was
written (`exists_source_of_mem`), also where the name of a scalar is spelled like the slot key of a
list and two parameters write to the same places. So no place stays empty, and each argument comes
from the value of a parameter: it is the value itself, an element, or the padding of a list
(`Param.Source`). -/

namespace NamedSql

open Layout

/-- What is written for a parameter under one of its keys: the value of a scalar, an element of a
list, or behind its last element the padding. -/
inductive Param.Source (bindings : Bindings) (param : Param) : Text → Value → Prop
  | value {value : Value} (hkind : param.kind = .scalar)
      (hvalue : bindings.get? param.name = some value) : Source bindings param param.name value
  | element {capacity i : Nat} {items : List Value} {item : Value}
      (hkind : param.kind = .list capacity)
      (hvalue : bindings.get? param.name = some (.list items)) (hi : i < capacity)
      (hitem : items[i]? = some item) : Source bindings param (slotKey param.name i) item
  | padding {capacity i : Nat} {items : List Value} (hkind : param.kind = .list capacity)
      (hvalue : bindings.get? param.name = some (.list items)) (hi : i < capacity)
      (hlength : items.length ≤ i) :
      Source bindings param (slotKey param.name i) (param.padding items)

theorem Param.IsBound.source {bindings : Bindings} {param : Param} (h : param.IsBound bindings)
    {slot : Text × Value} (hslot : slot ∈ param.slotList bindings) :
    param.Source bindings slot.1 slot.2 := by
  obtain ⟨value, hvalue, hfits⟩ := h
  generalize param.slotList bindings = slots at hfits hslot
  cases hfits with
  | scalar hkind =>
    rw [List.mem_singleton.mp hslot]
    exact .value hkind hvalue
  | @list items capacity hkind =>
    obtain ⟨i, hi, rfl⟩ := List.mem_map.mp hslot
    have hi' : i < capacity := List.mem_range.mp hi
    dsimp only
    cases hitem : items[i]? with
    | some item => exact .element hkind hvalue hi' hitem
    | none => exact .padding hkind hvalue hi' (List.getElem?_eq_none_iff.mp hitem)

theorem length_foldl_set {α : Type} (v : α) (positions : List Nat) (row : List α) :
    (positions.foldl (fun row position => row.set (position - 1) v) row).length = row.length := by
  induction positions generalizing row with
  | nil => rfl
  | cons position positions ih => rw [List.foldl_cons, ih, List.length_set]

/-- An argument stands for the key at its position. -/
theorem exists_key_of_get? {arguments : Arguments} {keys : List Text} {f : Text → Value}
    (h : arguments.values = keys.map f) {position : Nat} {value : Value}
    (hget : arguments.get? position = some value) :
    ∃ n, position = n + 1 ∧ ∃ key, keys[n]? = some key ∧ f key = value := by
  cases position with
  | zero => cases hget
  | succ n =>
    rw [Arguments.get?, h, List.getElem?_map, Option.map_eq_some_iff] at hget
    exact ⟨n, rfl, hget⟩

section

variable {plan : Plan} {uses : List Param} (hplan : plan.layout = ofUses uses)
include hplan

/-- The positions of a key lie in the row. -/
theorem mem_row_of_mem_positionsOf {key : Text} {position : Nat}
    (h : position ∈ positionsOf key (uses.flatMap Param.keys)) :
    1 ≤ position ∧ position - 1 < plan.placeholders := by
  have hle := le_length_of_mem_positionsOf h
  have hlength : plan.placeholders = (uses.flatMap Param.keys).length := by
    rw [Plan.placeholders, hplan]
    rfl
  obtain ⟨n, rfl, -⟩ := mem_positionsOf.mp h
  omega

/-- **One write** finds its key and keeps to the row. -/
theorem exists_fill_eq_ok {slot : Text × Value} (hkey : slot.1 ∈ uses.flatMap Param.keys) :
    ∃ positions, plan.positions slot.1 = .ok positions ∧
      (∀ position ∈ positions, 1 ≤ position ∧ position - 1 < plan.placeholders) ∧
      ∀ row, ∃ next, plan.fill row slot = .ok next ∧ next.length = row.length := by
  refine ⟨_, positions_eq_ok hplan hkey, fun _ => mem_row_of_mem_positionsOf hplan, fun row => ?_⟩
  rw [Plan.fill, positions_eq_ok hplan hkey]
  exact ⟨_, rfl, length_foldl_set _ _ _⟩

/-- Under every key that was used, a parameter has written its value. -/
theorem exists_source_of_mem (hu : Uniform uses) {bindings : Bindings}
    (hbound : ∀ param ∈ plan.params, param.IsBound bindings) {key : Text}
    (hkey : key ∈ uses.flatMap Param.keys) :
    ∃ param ∈ plan.params, ∃ value, param.Source bindings key value ∧
      written (fun _ => none) (plan.params.flatMap (Param.slotList bindings)) key = some value := by
  obtain ⟨owner, howner, hmem⟩ := (mem_flatMap_keys hu).mp hkey
  have hparam : owner ∈ plan.params := by rwa [Plan.params, hplan]
  have hslots : key ∈ (plan.params.flatMap (Param.slotList bindings)).map (·.1) := by
    rw [← (hbound owner hparam).map_fst] at hmem
    obtain ⟨slot, hslot, rfl⟩ := List.mem_map.mp hmem
    exact List.mem_map_of_mem (List.mem_flatMap_of_mem hparam hslot)
  -- the last to write under the key may be another parameter
  obtain ⟨slot, hslot, rfl, hwritten⟩ := exists_written_eq_some (g := fun _ => none) hslots
  obtain ⟨param, hparam, hslot⟩ := List.mem_flatMap.mp hslot
  exact ⟨param, hparam, slot.2, (hbound param hparam).source hslot, hwritten⟩

end

variable {dialect : Dialect} {capacities : Dict Nat}

/-- **A binding fills every place**, whatever the names of its parameters. Each key that it writes
under has positions, and these lie in the row. The only names that it calls unknown are names with
values that the template does not refer to. When it succeeds, the row holds an argument at every
place, and each argument is the value of a scalar, an element of a list or the padding of one, that
was written under a key with this position. -/
theorem bind_fills_every_place {text : Text} {plan : Plan}
    (h : dialect.compile text capacities = .ok plan) (bindings : Bindings) :
    (∀ param ∈ plan.params, ∀ slots, param.slotsIn bindings = .ok slots → ∀ slot ∈ slots,
      ∃ positions, plan.positions slot.1 = .ok positions ∧
        (∀ position ∈ positions, 1 ≤ position ∧ position - 1 < plan.placeholders) ∧
        ∀ row, ∃ next, plan.fill row slot = .ok next ∧ next.length = row.length) ∧
      (∀ name, plan.bind bindings = .error (.unknownParameter name) →
        name ∈ bindings.names ∧ name ∉ plan.params.map (·.name)) ∧
      ∀ arguments, plan.bind bindings = .ok arguments →
        plan.params.foldlM (plan.fillParam bindings) (List.replicate plan.placeholders none) =
            .ok (arguments.values.map some) ∧
          ∀ position value, arguments.get? position = some value →
            ∃ param ∈ plan.params, ∃ key positions, plan.positions key = .ok positions ∧
              position ∈ positions ∧ param.Source bindings key value := by
  obtain ⟨rfl, splices, rest, hmade⟩ := exists_madeOf_of_compile h
  have hplan := hmade.layout
  have hkeys := fun param => @keys_subset plan _ hplan hmade.uniform param
  refine ⟨fun param hparam slots hslots slot hslot => ?_, fun name herror => ?_,
    fun arguments hok => ?_⟩
  · exact exists_fill_eq_ok hplan (hkeys param hparam _ (Param.mem_keys_of_slotsIn hslots hslot))
  · cases hfound : plan.unknownName? bindings with
    | some other =>
      rw [Plan.bind_of_unknownName? hfound] at herror
      cases herror
      exact Plan.of_unknownName?_eq_some hfound
    | none =>
      -- no parameter is refused for this reason
      obtain ⟨earlier, param, later, -, -, hrefused⟩ :=
        (Plan.bind_eq_error_iff hplan hmade.uniform hfound).mp herror
      cases hrefused
  · obtain ⟨-, hbound, hvalues⟩ := (bind_eq_ok_iff hplan hmade.uniform).mp hok
    have hsource := fun key => @exists_source_of_mem _ _ hplan hmade.uniform bindings hbound key
    constructor
    · rw [replicate_placeholders hplan]
      refine (foldlM_fillParam_eq_ok_iff hplan hkeys).mpr ⟨hbound, ?_⟩
      rw [hvalues, List.map_map]
      refine List.map_congr_left fun key hkey => ?_
      obtain ⟨param, -, value, -, hwritten⟩ := hsource key hkey
      rw [Function.comp, hwritten, Option.getD_some]
    · intro position value hget
      obtain ⟨n, rfl, key, hkey, rfl⟩ := exists_key_of_get? hvalues hget
      have hmem := List.mem_of_getElem? hkey
      obtain ⟨param, hparam, value, hfrom, hwritten⟩ := hsource key hmem
      rw [hwritten, Option.getD_some]
      exact ⟨param, hparam, key, _, positions_eq_ok hplan hmem,
        mem_positionsOf.mpr ⟨n, rfl, hkey⟩, hfrom⟩

/-- The scalar is called like the first element of the list and takes both of their places, and the
list is padded behind it. -/
theorem bind_fills_every_place_shared_key :
    let text := "x IN :a AND y = :a__0".toList
    let capacities := Dict.empty.insert ['a'] 2
    let plan : Plan := ⟨text, "x IN (?, ?) AND y = ?".toList,
      ⟨3, [⟨['a'], .list 2, false⟩, ⟨"a__0".toList, .scalar, false⟩],
        [("a__0".toList, [1, 3]), ("a__1".toList, [2])]⟩⟩
    let bindings := Dict.ofList [(['a'], .list [.bool true]), ("a__0".toList, .bool false)]
    Dialect.standard.compile text capacities = .ok plan ∧
      plan.bind bindings = .ok ⟨[.bool false, .null, .bool false]⟩ ∧
      plan.params.foldlM (plan.fillParam bindings) (List.replicate plan.placeholders none) =
        .ok [some (.bool false), some .null, some (.bool false)] := by
  intro text capacities plan bindings
  have h : Dialect.standard.compile text capacities = .ok plan := by decide +kernel
  have hok : plan.bind bindings = .ok ⟨[.bool false, .null, .bool false]⟩ := rfl
  exact ⟨h, hok, ((bind_fills_every_place h bindings).2.2 _ hok).1⟩

end NamedSql
