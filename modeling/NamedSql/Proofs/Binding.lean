import NamedSql.Proofs.Filling
import NamedSql.Proofs.Ownership

/-! # Which values can be bound

A parameter accepts its value or refuses it for one reason (`Param.Accepts`, `Param.Refused`): there
is none, it has the wrong shape, one of its elements is a list, or there are too many of them. Each
reason is a fault of the value only if those before it are not.

A binding reports names that the template does not refer to first. Otherwise it takes the parameters
in the order of their discovery, and as every key of a parameter is found in the layout, nothing but
the values can stop it: it ends at the first parameter that refuses its value, for this one's reason
(`foldlM_fillParam_eq_error_iff`), and succeeds if there is none (`bind_ok_iff_accepts`). -/

namespace NamedSql

open Layout

namespace Param

/-- A scalar takes every value but lists, and a list takes the lists of such values that it has room
for. -/
def Takes (param : Param) (value : Value) : Prop :=
  match param.kind with
  | .scalar => value.isList = false
  | .list capacity =>
    ∃ items, value = .list items ∧ (∀ item ∈ items, item.isList = false) ∧ items.length ≤ capacity

/-- The parameter has a value, and takes it. -/
def Accepts (bindings : Bindings) (param : Param) : Prop :=
  ∃ value, bindings.get? param.name = some value ∧ param.Takes value

/-- The reasons for which a parameter cannot be bound. -/
inductive Refused (bindings : Bindings) (param : Param) : Error → Prop
  /-- There is no value. -/
  | unbound (hvalue : bindings.get? param.name = none) :
      Refused bindings param (.unbound param.name)
  /-- A scalar has a list as its value. -/
  | single {items : List Value} (hkind : param.kind = .scalar)
      (hvalue : bindings.get? param.name = some (.list items)) :
      Refused bindings param (.wrongShape param.name .single)
  /-- A list has another value than a list. -/
  | list {capacity : Nat} {value : Value} (hkind : param.kind = .list capacity)
      (hvalue : bindings.get? param.name = some value) (hlist : value.isList = false) :
      Refused bindings param (.wrongShape param.name .list)
  /-- An element is a list. -/
  | nested {capacity : Nat} {items : List Value} {item : Value}
      (hkind : param.kind = .list capacity)
      (hvalue : bindings.get? param.name = some (.list items)) (hitem : item ∈ items)
      (hlist : item.isList = true) :
      Refused bindings param (.wrongShape param.name .listOfSingles)
  /-- No element is a list, but there are more than there is room for. -/
  | length {capacity : Nat} {items : List Value} (hkind : param.kind = .list capacity)
      (hvalue : bindings.get? param.name = some (.list items))
      (hitems : ∀ item ∈ items, item.isList = false) (hlength : capacity < items.length) :
      Refused bindings param (.tooManyElements param.name items.length capacity)

/-! ### One parameter -/

section

variable {bindings : Bindings} {param : Param}

theorem any_isList_eq_false_iff {items : List Value} :
    items.any Value.isList = false ↔ ∀ item ∈ items, item.isList = false := by
  simp

theorem exists_fits_iff {value : Value} :
    (∃ slots, param.Fits value slots) ↔ param.Takes value := by
  unfold Takes
  cases hkind : param.kind with
  | scalar =>
    refine ⟨fun ⟨slots, hfits⟩ => ?_, fun hvalue => ⟨_, .scalar hkind hvalue⟩⟩
    cases hfits with
    | scalar _ hvalue => exact hvalue
    | list hkind' => rw [hkind] at hkind'; cases hkind'
  | list capacity =>
    constructor
    · rintro ⟨slots, hfits⟩
      cases hfits with
      | scalar hkind' => rw [hkind] at hkind'; cases hkind'
      | list hkind' hitems hlength =>
        rw [hkind] at hkind'
        cases hkind'
        exact ⟨_, rfl, any_isList_eq_false_iff.mp hitems, hlength⟩
    · rintro ⟨items, rfl, hitems, hlength⟩
      exact ⟨_, .list hkind (any_isList_eq_false_iff.mpr hitems) hlength⟩

/-- A parameter is bound if it accepts its value. -/
theorem exists_slotsIn_eq_ok_iff :
    (∃ slots, param.slotsIn bindings = .ok slots) ↔ param.Accepts bindings := by
  unfold slotsIn Accepts
  cases bindings.get? param.name with
  | none => simp
  | some value => simp [slots_eq_ok_iff, exists_fits_iff]

theorem isBound_iff_accepts : param.IsBound bindings ↔ param.Accepts bindings := by
  rw [isBound_iff, exists_slotsIn_eq_ok_iff]

/-- A parameter that is not bound has refused its value. -/
theorem slotsIn_eq_error_iff {e : Error} :
    param.slotsIn bindings = .error e ↔ param.Refused bindings e := by
  constructor
  · intro h
    unfold slotsIn at h
    cases hvalue : bindings.get? param.name with
    | none =>
      rw [hvalue] at h
      cases h
      exact .unbound hvalue
    | some value =>
      rw [hvalue] at h
      dsimp only at h
      unfold slots at h
      split at h
      · rename_i hkind
        cases h
        exact .single hkind hvalue
      · cases h
      · rename_i hkind
        split_ifs at h with hitems hlength
        · cases h
          obtain ⟨item, hitem, hlist⟩ := List.any_eq_true.mp hitems
          exact .nested hkind hvalue hitem hlist
        · cases h
          exact .length hkind hvalue (any_isList_eq_false_iff.mp (by simpa using hitems)) hlength
      · rename_i hkind hlist
        cases h
        exact .list hkind hvalue (Value.isList_eq_false hlist)
  · intro h
    unfold slotsIn
    cases h with
    | unbound hvalue => rw [hvalue]
    | single hkind hvalue =>
      rw [hvalue]
      unfold slots
      rw [hkind]
    | @list capacity value hkind hvalue hlist =>
      rw [hvalue]
      unfold slots
      rw [hkind]
      cases value with
      | list items => cases hlist
      | _ => rfl
    | nested hkind hvalue hitem hlist =>
      rw [hvalue]
      unfold slots
      rw [hkind]
      exact if_pos (List.any_eq_true.mpr ⟨_, hitem, hlist⟩)
    | length hkind hvalue hitems hlength =>
      rw [hvalue]
      unfold slots
      rw [hkind]
      dsimp only
      rw [any_isList_eq_false_iff.mpr hitems, if_neg Bool.false_ne_true, if_pos hlength]

end

end Param

/-! ### All parameters -/

section

variable {plan : Plan} {uses : List Param} (hplan : plan.layout = ofUses uses) {bindings : Bindings}
include hplan

/-- **The first parameter that refuses its value** stops the parameters from being filled in. -/
theorem foldlM_fillParam_eq_error_iff {params : List Param} {g : Text → Option Value} {e : Error}
    (hkeys : ∀ param ∈ params, ∀ key ∈ param.keys, key ∈ uses.flatMap Param.keys) :
    params.foldlM (plan.fillParam bindings) ((uses.flatMap Param.keys).map g) = .error e ↔
      ∃ earlier param later, params = earlier ++ param :: later ∧
        (∀ p ∈ earlier, p.Accepts bindings) ∧ param.Refused bindings e := by
  induction params generalizing g with
  | nil => simp [pure, Except.pure]
  | cons first params ih =>
    obtain ⟨hfirst, hparams⟩ := List.forall_mem_cons.mp hkeys
    rw [List.foldlM_cons, fillParam_map hplan g hfirst]
    simp only [List.cons_eq_append_iff, ← Param.slotsIn_eq_error_iff,
      ← Param.exists_slotsIn_eq_ok_iff] at ih ⊢
    cases hslots : first.slotsIn bindings with
    | error e' =>
      constructor
      · intro h
        cases h
        exact ⟨[], first, params, Or.inl ⟨rfl, rfl⟩, fun _ h => absurd h List.not_mem_nil, hslots⟩
      · rintro ⟨earlier, param, later, ⟨rfl, heq⟩ | ⟨earlier, rfl, rfl⟩, hearlier, herror⟩
        · obtain ⟨rfl, rfl⟩ := List.cons.inj heq
          rw [hslots] at herror
          cases herror
          rfl
        · -- the first parameter is not among those that accept their values
          obtain ⟨slots, hok⟩ := hearlier first List.mem_cons_self
          rw [hslots] at hok
          cases hok
    | ok slots =>
      refine (ih hparams).trans ?_
      constructor
      · rintro ⟨earlier, param, later, rfl, hearlier, herror⟩
        exact ⟨first :: earlier, param, later, Or.inr ⟨earlier, rfl, rfl⟩,
          List.forall_mem_cons.mpr ⟨⟨slots, hslots⟩, hearlier⟩, herror⟩
      · rintro ⟨earlier, param, later, ⟨rfl, heq⟩ | ⟨earlier, rfl, rfl⟩, hearlier, herror⟩
        · obtain ⟨rfl, rfl⟩ := List.cons.inj heq
          rw [hslots] at herror
          cases herror
        · exact ⟨earlier, param, later, rfl, (List.forall_mem_cons.mp hearlier).2, herror⟩

end

namespace Plan

variable {plan : Plan} {bindings : Bindings}

theorem isParam_eq_true_iff {name : Text} :
    plan.isParam name = true ↔ name ∈ plan.params.map (·.name) := by
  rw [isParam, param?, Layout.param?, List.find?_isSome, List.mem_map]
  simp [params]

theorem unknownName?_eq_none_iff :
    plan.unknownName? bindings = none ↔
      ∀ name ∈ bindings.names, name ∈ plan.params.map (·.name) := by
  simp only [unknownName?, List.find?_eq_none, Bool.not_eq_true', Bool.not_eq_false,
    isParam_eq_true_iff]

theorem of_unknownName?_eq_some {name : Text} (h : plan.unknownName? bindings = some name) :
    name ∈ bindings.names ∧ name ∉ plan.params.map (·.name) := by
  refine ⟨List.mem_of_find?_eq_some h, ?_⟩
  have hnot := List.find?_some h
  rw [← isParam_eq_true_iff]
  simpa using hnot

/-- An unknown name is reported before anything else. -/
theorem bind_of_unknownName? {name : Text} (h : plan.unknownName? bindings = some name) :
    plan.bind bindings = .error (.unknownParameter name) := by
  rw [bind, h]

/-- **A binding that knows all names** fails at the first parameter that refuses its value. -/
theorem bind_eq_error_iff {uses : List Param} (hplan : plan.layout = ofUses uses)
    (hu : Uniform uses) (hknown : plan.unknownName? bindings = none) {e : Error} :
    plan.bind bindings = .error e ↔ ∃ earlier param later,
      plan.params = earlier ++ param :: later ∧ (∀ p ∈ earlier, p.Accepts bindings) ∧
        param.Refused bindings e := by
  rw [← foldlM_fillParam_eq_error_iff hplan fun _ => keys_subset hplan hu,
    ← replicate_placeholders hplan, bind, hknown]
  dsimp only
  cases plan.params.foldlM (plan.fillParam bindings)
    (List.replicate plan.placeholders none) <;> simp

end Plan

variable {dialect : Dialect} {capacities : Dict Nat}

/-- **Which values can be bound**: a binding of a plan succeeds exactly if the names with values are
those of the parameters and each parameter accepts its value. Otherwise a name that is unknown is
reported, and if there is none, the first parameter, in the order in which the template refers to
them, that refuses its value, with the first reason that it has. -/
theorem bind_ok_iff_accepts {text : Text} {plan : Plan}
    (h : dialect.compile text capacities = .ok plan) (bindings : Bindings) :
    plan.params.map (·.name) = (Reference.names dialect.marker text).eraseDups ∧
      ((∃ arguments, plan.bind bindings = .ok arguments) ↔
        (∀ name, name ∈ bindings.names ↔ name ∈ plan.params.map (·.name)) ∧
          ∀ param ∈ plan.params, param.Accepts bindings) ∧
      ((∃ name ∈ bindings.names, name ∉ plan.params.map (·.name)) →
        ∃ name ∈ bindings.names, name ∉ plan.params.map (·.name) ∧
          plan.bind bindings = .error (.unknownParameter name)) ∧
      ((∀ name ∈ bindings.names, name ∈ plan.params.map (·.name)) → ∀ e,
        plan.bind bindings = .error e ↔ ∃ earlier param later,
          plan.params = earlier ++ param :: later ∧ (∀ p ∈ earlier, p.Accepts bindings) ∧
            param.Refused bindings e) := by
  obtain ⟨rfl, splices, rest, hmade⟩ := exists_madeOf_of_compile h
  have hbind := @bind_eq_ok_iff _ _ hmade.layout bindings hmade.uniform
  refine ⟨hmade.map_name_params, ⟨?_, ?_⟩, ?_, ?_⟩
  · rintro ⟨arguments, harguments⟩
    obtain ⟨hknown, hbound, -⟩ := hbind.mp harguments
    have haccepts : ∀ param ∈ plan.params, param.Accepts bindings := fun param hparam =>
      Param.isBound_iff_accepts.mp (hbound param hparam)
    refine ⟨fun name => ⟨Plan.unknownName?_eq_none_iff.mp hknown name, fun hname => ?_⟩, haccepts⟩
    obtain ⟨param, hparam, rfl⟩ := List.mem_map.mp hname
    obtain ⟨value, hvalue, -⟩ := haccepts param hparam
    exact Dict.mem_names_iff.mpr ⟨value, hvalue⟩
  · rintro ⟨hnames, haccepts⟩
    refine ⟨⟨_⟩, hbind.mpr ⟨?_, fun param hparam => ?_, rfl⟩⟩
    · exact Plan.unknownName?_eq_none_iff.mpr fun name => (hnames name).mp
    · exact Param.isBound_iff_accepts.mpr (haccepts param hparam)
  · rintro ⟨name, hname, hunknown⟩
    cases hfound : plan.unknownName? bindings with
    | none => exact absurd (Plan.unknownName?_eq_none_iff.mp hfound name hname) hunknown
    | some other =>
      obtain ⟨hother, hnot⟩ := Plan.of_unknownName?_eq_some hfound
      exact ⟨other, hother, hnot, Plan.bind_of_unknownName? hfound⟩
  · intro hnames e
    exact Plan.bind_eq_error_iff hmade.layout hmade.uniform
      (Plan.unknownName?_eq_none_iff.mpr hnames)

/-- The list `b` has more elements than there is room for, which is reported although `c`, which is
found later, has no value. -/
theorem bind_ok_iff_accepts_too_many :
    let text := "a = :a OR x IN :b OR y LIKE_ANY :c".toList
    let capacities := (Dict.empty.insert ['b'] 1).insert ['c'] 1
    let b : Param := ⟨['b'], .list 1, false⟩
    let plan : Plan := ⟨text, "a = ? OR x IN (?) OR y LIKE ?".toList,
      ⟨3, [⟨['a'], .scalar, false⟩, b, ⟨['c'], .list 1, false⟩],
        [(['a'], [1]), ("b__0".toList, [2]), ("c__0".toList, [3])]⟩⟩
    let bindings := Dict.ofList [(['a'], .null), (['b'], .list [.bool true, .null])]
    Dialect.standard.compile text capacities = .ok plan ∧
      plan.bind bindings = .error (.tooManyElements ['b'] 2 1) := by
  intro text capacities b plan bindings
  have h : Dialect.standard.compile text capacities = .ok plan := by decide +kernel
  have hnames : ∀ name ∈ bindings.names, name ∈ plan.params.map (·.name) := by decide +kernel
  have hkind : b.kind = .list 1 := rfl
  have hvalue : bindings.get? b.name = some (.list [.bool true, .null]) := rfl
  have hitems : ∀ item ∈ [Value.bool true, .null], item.isList = false := by simp [Value.isList]
  refine ⟨h, ((bind_ok_iff_accepts h bindings).2.2.2 hnames _).mpr
    ⟨[⟨['a'], .scalar, false⟩], b, [⟨['c'], .list 1, false⟩], rfl, ?_, ?_⟩⟩
  · exact List.forall_mem_singleton.mpr ⟨.null, rfl, rfl⟩
  · exact .length hkind hvalue hitems (by decide)

end NamedSql
