import Mathlib.Data.List.Perm.Subperm
import NamedSql.Proofs.Binding
import NamedSql.Proofs.ValueEquality
import NamedSql.Store

/-! # The last value of a name counts

A store that was filled by a history of insertions has the names of the history, and each name has
the value that was inserted last (`Store.Built.get?_eq`). In which order it keeps them is not known,
so two stores with one history need not be the same; but whatever is read from a store by name is.

Three things are read from a store in its own order. The comparison of two stores goes through all
names and only asks whether the values under them are equal (`Store.equal_iff`). The search for a
name that a template does not refer to reports one of the unknown names, and which one it is depends
on the order only if there are several (`Plan.bindStore_eq_or`). -/

namespace NamedSql

namespace Dict

variable {α : Type}

/-- Among distinct names the order makes no difference. -/
theorem lookup_perm {a b : List (Text × α)} (hperm : a.Perm b) (hnodup : (a.map (·.1)).Nodup)
    (name : Text) : lookup name a = lookup name b := by
  ext value
  rw [lookup_eq_some_iff hnodup, lookup_eq_some_iff ((hperm.map _).nodup_iff.mp hnodup),
    hperm.mem_iff]

theorem perm_of_lookup_eq {a b : List (Text × α)} (ha : (a.map (·.1)).Nodup)
    (hb : (b.map (·.1)).Nodup) (h : ∀ name, lookup name a = lookup name b) : a.Perm b := by
  refine (List.perm_ext_iff_of_nodup ha.of_map hb.of_map).mpr fun ⟨name, value⟩ => ?_
  rw [← lookup_eq_some_iff ha, ← lookup_eq_some_iff hb, h]

/-- An entry in place of the one with its name. -/
theorem lookup_replace (name other : Text) (value : α) (entries : List (Text × α)) :
    lookup other ((name, value) :: entries.filter fun entry => entry.1 != name) =
      if other = name then some value else lookup other entries := by
  rw [lookup]
  simp only [eq_comm (a := name)]
  split_ifs with h
  · rfl
  · induction entries with
    | nil => rfl
    | cons entry entries ih =>
      obtain ⟨key, old⟩ := entry
      by_cases hkey : key = name
      · simp [hkey, lookup, Ne.symm h, ih]
      · simp [hkey, lookup, ih]

theorem nodup_replace {entries : List (Text × α)} (hnodup : (entries.map (·.1)).Nodup)
    (name : Text) (value : α) :
    (((name, value) :: entries.filter fun entry => entry.1 != name).map (·.1)).Nodup := by
  rw [List.map_cons, List.nodup_cons]
  refine ⟨fun hmem => ?_, hnodup.sublist (List.filter_sublist.map _)⟩
  obtain ⟨entry, hentry, hname⟩ := List.mem_map.mp hmem
  simpa [hname] using (List.mem_filter.mp hentry).2

/-- Two lists of entries agree place by place if they have the same names in the same order and
values that agree. -/
theorem isEqv_iff {eq : α → α → Bool} {a b : List (Text × α)} (ha : (a.map (·.1)).Nodup)
    (hb : (b.map (·.1)).Nodup) :
    a.isEqv b (fun x y => x.1 == y.1 && eq x.2 y.2) = true ↔ a.map (·.1) = b.map (·.1) ∧
      ∀ name x y, lookup name a = some x → lookup name b = some y → eq x y = true := by
  induction a generalizing b with
  | nil => cases b <;> simp [lookup]
  | cons entry a ih =>
    obtain ⟨key, x⟩ := entry
    cases b with
    | nil => simp
    | cons entry' b =>
      obtain ⟨key', y⟩ := entry'
      obtain ⟨hfresh, ha⟩ := List.nodup_cons.mp ha
      obtain ⟨-, hb⟩ := List.nodup_cons.mp hb
      rw [List.isEqv_cons_cons, Bool.and_eq_true, Bool.and_eq_true, beq_iff_eq, ih ha hb,
        List.map_cons, List.map_cons, List.cons.injEq]
      dsimp only
      constructor
      · rintro ⟨⟨rfl, hxy⟩, hnames, hvalues⟩
        refine ⟨⟨rfl, hnames⟩, fun name u v hu hv => ?_⟩
        rw [lookup] at hu hv
        split_ifs at hu hv
        · cases hu
          cases hv
          exact hxy
        · exact hvalues name u v hu hv
      · rintro ⟨⟨rfl, hnames⟩, hvalues⟩
        refine ⟨⟨rfl, hvalues key x y (if_pos rfl) (if_pos rfl)⟩, hnames, fun name u v hu hv => ?_⟩
        have hne : key ≠ name := by
          rintro rfl
          exact hfresh (exists_lookup_eq_some_iff.mp ⟨u, hu⟩)
        exact hvalues name u v ((if_neg hne).trans hu) ((if_neg hne).trans hv)

theorem names_eq_iff {a b : Dict α} :
    a.names = b.names ↔ ∀ name, name ∈ a.names ↔ name ∈ b.names := by
  refine ⟨fun h name => by rw [h], fun h => ?_⟩
  have hperm := (List.perm_ext_iff_of_nodup a.nodup_names b.nodup_names).mpr h
  refine hperm.eq_of_pairwise (fun x y _ _ hxy hyx => ?_) (List.pairwise_map.mpr a.ascending)
    (List.pairwise_map.mpr b.ascending)
  exact absurd hyx (List.lt_asymm hxy)

end Dict

namespace Store

/-! ### Insertions -/

theorem mem_names_iff {store : Store} {name : Text} :
    name ∈ store.names ↔ ∃ value, store.get? name = some value :=
  Dict.exists_lookup_eq_some_iff.symm

theorem length_names (store : Store) : store.names.length = store.size := List.length_map _

/-- **An insertion** changes the value of its own name and no other, and nothing else can be said
of it. -/
theorem inserts_iff {store next : Store} {name : Text} {value : Value} :
    store.Inserts name value next ↔
      ∀ other, next.get? other = if other = name then some value else store.get? other := by
  simp only [Store.get?, ← Dict.lookup_replace]
  exact ⟨fun h => Dict.lookup_perm h next.distinct,
    Dict.perm_of_lookup_eq next.distinct (Dict.nodup_replace store.distinct name value)⟩

/-- **The history** tells the value of every name. -/
theorem Built.get?_eq {history : List (Text × Value)} {store : Store} (h : Built history store)
    (name : Text) : store.get? name = lastValue? history name := by
  induction h with
  | empty => rfl
  | insert _ hinsert ih =>
    rw [inserts_iff.mp hinsert, ih, lastValue?, lastValue?, List.reverse_append]
    simp only [List.reverse_singleton, List.singleton_append, Dict.lookup, eq_comm]

/-- A store has each name of its history once. -/
theorem Built.perm_names {history : List (Text × Value)} {store : Store} (h : Built history store) :
    store.names.Perm (history.map (·.1)).eraseDups := by
  refine (List.perm_ext_iff_of_nodup store.distinct (Layout.nodup_eraseDups _)).mpr fun name => ?_
  refine mem_names_iff.trans ?_
  rw [h.get?_eq, lastValue?, Dict.exists_lookup_eq_some_iff, List.mem_eraseDups,
    List.map_reverse, List.mem_reverse]

theorem get?_bindings (store : Store) (name : Text) :
    store.bindings.get? name = store.get? name := by
  rw [bindings, Dict.get?_ofList, get?]
  refine Dict.lookup_perm store.entries.reverse_perm ?_ name
  rw [List.map_reverse, List.nodup_reverse]
  exact store.distinct

/-- The dictionary with a history is a store with the history, that in the order of the names. -/
theorem built_ofBindings (history : List (Text × Value)) :
    Built history (ofBindings (Dict.ofList history)) := by
  induction history using List.reverseRecOn with
  | nil => exact .empty
  | append_singleton history last ih =>
    refine ih.insert (inserts_iff.mpr fun other => ?_)
    rw [Dict.ofList_concat]
    exact Dict.get?_insert _ _ _ _

/-! ### Stores that are equal -/

/-- Stores with the same names have as many entries. -/
theorem perm_names {a b : Store} (h : ∀ name, name ∈ a.names ↔ name ∈ b.names) :
    a.names.Perm b.names :=
  (List.perm_ext_iff_of_nodup a.distinct b.distinct).mpr h

/-- **Stores are equal** if they have the same names with equal values. -/
theorem equal_iff {a b : Store} : a.equal b = true ↔ (∀ name, name ∈ a.names ↔ name ∈ b.names) ∧
    ∀ name x y, a.get? name = some x → b.get? name = some y → x.equal y = true := by
  have hget : ∀ entry : Text × Value, entry ∈ a.entries ↔ a.get? entry.1 = some entry.2 :=
    fun entry => (Dict.lookup_eq_some_iff a.distinct).symm
  rw [equal, Bool.and_eq_true, beq_iff_eq, List.all_eq_true]
  constructor
  · rintro ⟨hsize, hall⟩
    have hsub : a.names ⊆ b.names := by
      intro name hname
      obtain ⟨entry, hentry, rfl⟩ := List.mem_map.mp hname
      have hsome := hall entry hentry
      cases hvalue : b.get? entry.1 with
      | none => rw [hvalue] at hsome; cases hsome
      | some value => exact mem_names_iff.mpr ⟨value, hvalue⟩
    -- there are as many names in the one store as in the other
    have hlength : b.names.length ≤ a.names.length := by
      rw [length_names, length_names]
      exact hsize.ge
    have hperm : a.names.Perm b.names :=
      (List.subperm_of_subset a.distinct hsub).perm_of_length_le hlength
    refine ⟨fun name => hperm.mem_iff, fun name x y hx hy => ?_⟩
    have hsome := hall (name, x) ((hget (name, x)).mpr hx)
    dsimp only at hsome
    rwa [hy] at hsome
  · rintro ⟨hnames, hvalues⟩
    refine ⟨?_, fun entry hentry => ?_⟩
    · rw [← length_names, ← length_names]
      exact (perm_names hnames).length_eq
    · obtain ⟨value, hvalue⟩ := mem_names_iff.mp ((hnames entry.1).mp (List.mem_map_of_mem hentry))
      rw [hvalue]
      exact hvalues _ _ _ ((hget entry).mp hentry) hvalue

/-- Dictionaries are compared as the stores in the order of their names are. -/
theorem equal_ofBindings (a b : Bindings) : (ofBindings a).equal (ofBindings b) = a.equal b := by
  have hdict := @Dict.isEqv_iff _ Value.equal _ _ a.nodup_names b.nodup_names
  rw [Bool.eq_iff_iff, equal_iff, Bindings.equal, Dict.agree, hdict]
  exact and_congr_left' Dict.names_eq_iff.symm

end Store

/-! ### Bindings of a store -/

namespace Plan

variable {plan : Plan}

/-- A dictionary is bound as the store in the order of its names is. -/
theorem bindStore_ofBindings (bindings : Bindings) :
    plan.bindStore (.ofBindings bindings) = plan.bind bindings := by
  have hbindings : (Store.ofBindings bindings).bindings = bindings :=
    Dict.ext_get? fun name => Store.get?_bindings _ name
  rw [bindStore, hbindings]
  rfl

theorem unknownIn?_eq_none_iff {store : Store} :
    plan.unknownIn? store = none ↔ ∀ name ∈ store.names, plan.isParam name = true := by
  simp only [unknownIn?, List.find?_eq_none, Bool.not_eq_true', Bool.not_eq_false]

theorem of_unknownIn?_eq_some {store : Store} {name : Text}
    (h : plan.unknownIn? store = some name) : name ∈ store.names ∧ plan.isParam name = false :=
  ⟨List.mem_of_find?_eq_some h, by simpa using List.find?_some h⟩

/-- **Bindings of two stores** with the same names and values give the same, unless there are two
unknown names and each binding reports another one. -/
theorem bindStore_eq_or {s t : Store} (hnames : ∀ name, name ∈ s.names ↔ name ∈ t.names)
    (hbindings : s.bindings = t.bindings) :
    plan.bindStore s = plan.bindStore t ∨ ∃ x ∈ s.names, ∃ y ∈ s.names, x ≠ y ∧
      plan.isParam x = false ∧ plan.isParam y = false ∧
      plan.bindStore s = .error (.unknownParameter x) ∧
      plan.bindStore t = .error (.unknownParameter y) := by
  cases hs : plan.unknownIn? s with
  | none =>
    have ht : plan.unknownIn? t = none := unknownIn?_eq_none_iff.mpr fun name hname =>
      unknownIn?_eq_none_iff.mp hs name ((hnames name).mpr hname)
    exact Or.inl (by rw [bindStore, bindStore, hs, ht, hbindings])
  | some x =>
    obtain ⟨hx, hunknown⟩ := of_unknownIn?_eq_some hs
    cases ht : plan.unknownIn? t with
    | none =>
      have hknown := unknownIn?_eq_none_iff.mp ht x ((hnames x).mp hx)
      rw [hunknown] at hknown
      cases hknown
    | some y =>
      obtain ⟨hy, hunknown'⟩ := of_unknownIn?_eq_some ht
      have herror : plan.bindStore s = .error (.unknownParameter x) := by rw [bindStore, hs]
      have herror' : plan.bindStore t = .error (.unknownParameter y) := by rw [bindStore, ht]
      by_cases hxy : x = y
      · exact Or.inl (by rw [herror, herror', hxy])
      · exact Or.inr ⟨x, hx, y, (hnames y).mpr hy, hxy, hunknown, hunknown', herror, herror'⟩

end Plan

/-! ### Two histories -/

namespace Store

/-- **The last value of each name counts.** Two histories of insertions with the same last values,
in whatever order and with whatever was overwritten, lead to stores of the same size with the same
values, as many as the histories have names. The stores are equal exactly if no value holds a NaN,
and bindings of them give the same, except that of several unknown names each reports some; all this
is so for the dictionary of the history, too. Stores are equal only if they have the same names with
equal values. -/
theorem last_values_count :
    (∀ a b s t, (∀ name, lastValue? a name = lastValue? b name) → Built a s → Built b t →
      (s.size = t.size ∧ s.size = (a.map (·.1)).eraseDups.length ∧ s.isEmpty = t.isEmpty) ∧
      (∀ name, s.get? name = t.get? name ∧ s.get? name = lastValue? a name) ∧
      (s.equal t = true ↔ ∀ name value, lastValue? a name = some value → value.holdsNaN = false) ∧
      (∀ plan : Plan, (∀ x ∈ s.names, ∀ y ∈ s.names, plan.isParam x = false →
        plan.isParam y = false → x = y) → plan.bindStore s = plan.bindStore t) ∧
      ∀ plan : Plan, plan.bindStore s = plan.bindStore t ∨ ∃ x ∈ s.names, ∃ y ∈ s.names,
        x ≠ y ∧ plan.isParam x = false ∧ plan.isParam y = false ∧
        plan.bindStore s = .error (.unknownParameter x) ∧
        plan.bindStore t = .error (.unknownParameter y)) ∧
    (∀ a, Built a (ofBindings (Dict.ofList a))) ∧
    (∀ (plan : Plan) bindings, plan.bindStore (ofBindings bindings) = plan.bind bindings) ∧
    (∀ a b : Bindings, (ofBindings a).equal (ofBindings b) = a.equal b) ∧
    ∀ s t : Store, s.equal t = true ↔ (∀ name, name ∈ s.names ↔ name ∈ t.names) ∧
      ∀ name x y, s.get? name = some x → t.get? name = some y → x.equal y = true := by
  refine ⟨fun a b s t hlast hs ht => ?_, built_ofBindings, fun _ => Plan.bindStore_ofBindings,
    equal_ofBindings, fun _ _ => equal_iff⟩
  have hget : ∀ name, s.get? name = t.get? name := fun name => by
    rw [hs.get?_eq, ht.get?_eq, hlast]
  have hnames : ∀ name, name ∈ s.names ↔ name ∈ t.names := fun name => by
    rw [mem_names_iff, mem_names_iff, hget]
  have hsize : s.size = t.size := by
    rw [← length_names, ← length_names]
    exact (perm_names hnames).length_eq
  have hbindings : s.bindings = t.bindings :=
    Dict.ext_get? fun name => by rw [get?_bindings, get?_bindings, hget]
  have hor := fun plan : Plan => plan.bindStore_eq_or hnames hbindings
  refine ⟨⟨hsize, ?_, ?_⟩, fun name => ⟨hget name, hs.get?_eq name⟩, ?_, fun plan hone => ?_, hor⟩
  · rw [← length_names]
    exact hs.perm_names.length_eq
  · rw [isEmpty, isEmpty, Bool.eq_iff_iff, List.isEmpty_iff_length_eq_zero,
      List.isEmpty_iff_length_eq_zero]
    exact Eq.congr_left hsize
  · rw [equal_iff, and_iff_right hnames]
    constructor
    · intro h name value hvalue
      rw [← hs.get?_eq] at hvalue
      have hself := h name value value hvalue (hget name ▸ hvalue)
      rw [Value.equal_self] at hself
      simpa using hself
    · intro h name x y hx hy
      rw [← hget, hx] at hy
      cases hy
      rw [hs.get?_eq] at hx
      rw [Value.equal_self, h name x hx]
      rfl
  · rcases hor plan with hsame | ⟨x, hx, y, hy, hxy, hunknown, hunknown', -⟩
    · exact hsame
    · exact absurd (hone x hx y hy hunknown hunknown') hxy

/-- A name that was set to NULL first, and a name that the template does not refer to. The stores
keep the two in different orders. -/
theorem last_values_count_overwritten :
    let a : List (Text × Value) := [(['x'], .null), (['y'], .bool true), (['x'], .int 1)]
    let b : List (Text × Value) := [(['y'], .bool true), (['x'], .int 1)]
    let s := ofBindings (Dict.ofList a)
    let t : Store := ⟨[(['y'], .bool true), (['x'], .int 1)], by decide⟩
    let plan : Plan := ⟨"a = :x".toList, "a = ?".toList,
      ⟨1, [⟨['x'], .scalar, false⟩], [(['x'], [1])]⟩⟩
    (∀ name, lastValue? a name = lastValue? b name) ∧ Built a s ∧ Built b t ∧
      Dialect.standard.compile "a = :x".toList .empty = .ok plan ∧ s.names ≠ t.names ∧
      s.size = 2 ∧ s.equal t = true ∧ plan.bindStore s = plan.bindStore t ∧
      plan.bindStore t = .error (.unknownParameter ['y']) := by
  intro a b s t plan
  have hb : ∀ name, lastValue? b name =
      if ['x'] = name then some (.int 1) else if ['y'] = name then some (.bool true) else none :=
    fun _ => rfl
  have hlast : ∀ name, lastValue? a name = lastValue? b name := by
    intro name
    have ha : lastValue? a name = if ['x'] = name then some (.int 1)
      else if ['y'] = name then some (.bool true)
      else if ['x'] = name then some .null else none := rfl
    rw [ha, hb]
    split_ifs <;> rfl
  have hs : Built a s := built_ofBindings a
  have hy : Built [(['y'], .bool true)] ⟨[(['y'], .bool true)], by decide⟩ :=
    Built.empty.insert (.refl _)
  have ht : Built b t := hy.insert (List.Perm.swap _ _ _)
  have hone : ∀ x ∈ s.names, ∀ y ∈ s.names, plan.isParam x = false → plan.isParam y = false →
      x = y := by decide +kernel
  obtain ⟨⟨-, hsize, -⟩, -, hequal, hbind, -⟩ := last_values_count.1 a b s t hlast hs ht
  refine ⟨hlast, hs, ht, by decide +kernel, by decide +kernel, hsize, hequal.mpr ?_,
    hbind plan hone, rfl⟩
  intro name value hvalue
  rw [hlast, hb] at hvalue
  split_ifs at hvalue <;> cases hvalue <;> rfl

end Store

end NamedSql
