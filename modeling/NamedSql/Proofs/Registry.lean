import Mathlib.Data.List.Pairwise
import NamedSql.Proofs.Consistency
import NamedSql.Proofs.Padding
import NamedSql.Registry

/-! # The fields of a registry agree

A registry represents a layout (`Represents`) if its fields hold what can be found in the layout by
searching: `lookup` the place at which the search for a name ends, `indexes` the positions that the
search for a key finds, `keys` the keys in their order. Every operation takes a registry and the
layout that it represents to such a pair again, or is refused by both and leaves the registry as it
was (`refines_apply`); so after any operations there is a registry, and it represents the layout
after these operations (`represents_run`).

What a registry holds is therefore known from the layout. Its five fields are consistent
(`Represents.consistent`), no query on it slips, and the registry that a compilation builds answers
as the plan does (`represents_of_compile`). -/

namespace NamedSql

namespace Layout

/-! ### Searching a layout -/

section

variable {params : List Param} {name : Text}

/-- A name that is not found is appended. -/
theorem declare_of_findIdx?_eq_none (h : params.findIdx? (fun param => param.name == name) = none)
    (kind : Kind) (negated : Bool) :
    declare name kind negated params = .ok (params ++ [⟨name, kind, negated⟩]) := by
  induction params with
  | nil => rfl
  | cons param rest ih =>
    rw [List.findIdx?_cons] at h
    split at h
    · cases h
    · rename_i hname
      rw [declare, if_neg (by simpa using hname), ih (by simpa using h)]
      rfl

/-- A name that is found is used once more where it stands. -/
theorem declare_of_findIdx?_eq_some {i : Nat}
    (h : params.findIdx? (fun param => param.name == name) = some i) (kind : Kind)
    (negated : Bool) :
    ∃ param, params[i]? = some param ∧ declare name kind negated params =
      if param.kind = kind then
        .ok (params.set i { param with negated := param.negated || negated })
      else .error (.conflictingKinds name) := by
  induction params generalizing i with
  | nil => cases h
  | cons param rest ih =>
    rw [List.findIdx?_cons] at h
    split at h
    · rename_i hname
      obtain rfl := Option.some.inj h
      exact ⟨param, rfl, by rw [declare, if_pos (beq_iff_eq.mp hname)]; rfl⟩
    · rename_i hname
      obtain ⟨j, hj, rfl⟩ := Option.map_eq_some_iff.mp h
      obtain ⟨found, hfound, hdeclare⟩ := ih hj
      refine ⟨found, hfound, ?_⟩
      rw [declare, if_neg (by simpa using hname), hdeclare]
      split_ifs <;> rfl

end

/-- What takes the place of a parameter of the same name changes no name. -/
theorem map_name_set {params : List Param} {i : Nat} {param other : Param}
    (h : params[i]? = some param) (hname : other.name = param.name) :
    (params.set i other).map (·.name) = params.map (·.name) := by
  have hi : (params.map (·.name))[i]? = some param.name := by rw [List.getElem?_map, h]; rfl
  obtain ⟨hlt, hget⟩ := List.getElem?_eq_some_iff.mp hi
  rw [List.map_set, hname, ← hget, List.set_getElem_self]

theorem index?_append (layout : Layout) (param : Param) (name : Text) :
    index? { layout with params := layout.params ++ [param] } name =
      (layout.index? name).or
        (if param.name = name then some layout.params.length else none) := by
  rw [index?, List.findIdx?_append, List.findIdx?_singleton, index?]
  by_cases h : param.name = name <;> simp [h]

/-- A search for a name sees nothing of a parameter but its name. -/
theorem index?_congr {layout layout' : Layout}
    (h : layout.params.map (·.name) = layout'.params.map (·.name)) (name : Text) :
    layout.index? name = layout'.index? name := by
  have hmap : ∀ params : List Param,
      params.findIdx? (fun param => param.name == name) =
        (params.map (·.name)).findIdx? (· == name) := fun params => by
    rw [List.findIdx?_map]
    rfl
  rw [index?, index?, hmap, hmap, h]

theorem positions?_eq_none_iff {layout : Layout} {key : Text} :
    layout.positions? key = none ↔ key ∉ layout.entries.map (·.1) := by
  rw [positions?, Option.map_eq_none_iff, List.find?_eq_none, List.mem_map]
  simp only [beq_iff_eq, not_exists, not_and]

theorem map_fst_record (key : Text) (position : Nat) (entries : List (Text × List Nat)) :
    (record key position entries).map (·.1) =
      if key ∈ entries.map (·.1) then entries.map (·.1) else entries.map (·.1) ++ [key] := by
  induction entries with
  | nil => rfl
  | cons entry rest ih =>
    obtain ⟨first, positions⟩ := entry
    rw [record]
    by_cases h : first = key
    · simp [h]
    · rw [if_neg h, List.map_cons, ih]
      split_ifs <;> simp_all

theorem add_eq_declare (layout : Layout) (use : Param) :
    layout.add use =
      ((declare use.name use.kind use.negated layout.params).map fun params =>
        { layout with params }).map fun layout => use.keys.foldl push layout := by
  rw [add]
  cases declare use.name use.kind use.negated layout.params <;> rfl

end Layout

namespace Registry

/-! ### One operation -/

/-- **The registry holds what the layout is searched for.** -/
structure Represents (registry : Registry) (layout : Layout) : Prop where
  placeholders : registry.placeholders = layout.placeholders
  params : registry.params = layout.params
  lookup : ∀ name, registry.lookup.get? name = layout.index? name
  indexes : ∀ key, registry.indexes.get? key = layout.positions? key
  keys : registry.keys = layout.entries.map (·.1)

/-- An operation declares its parameter, and then adds a placeholder under each of its keys. -/
theorem apply_eq_declare (registry : Registry) (operation : Layout.Operation) :
    registry.apply operation =
      (registry.declare operation.use.name operation.use.kind operation.use.negated).map
        (.andThen fun registry => operation.use.keys.foldl push registry) := by
  cases operation <;> rfl

theorem push_eq (registry : Registry) (key : Text) :
    registry.push key =
      ⟨registry.placeholders + 1, registry.params, registry.lookup,
        registry.indexes.insert key
          ((registry.indexes.get? key).getD [] ++ [registry.placeholders + 1]),
        if registry.indexes.get? key = none then registry.keys ++ [key] else registry.keys⟩ := by
  rw [push]
  cases registry.indexes.get? key <;> rfl

theorem represents_empty : empty.Represents .empty :=
  ⟨rfl, rfl, fun _ => rfl, fun _ => rfl, rfl⟩

/-- What an operation does to the registry is what it does to the layout. A registry that refuses it
stays as it was. -/
inductive Refines (registry : Registry) : Option Outcome → Except Error Layout → Prop
  | done {next : Registry} {layout : Layout} (h : next.Represents layout) :
    Refines registry (some (.done next)) (.ok layout)
  | refused (e : Error) : Refines registry (some (.refused registry e)) (.error e)

theorem Refines.andThen {registry : Registry} {outcome : Option Outcome}
    {result : Except Error Layout} (h : Refines registry outcome result)
    {f : Registry → Registry} {g : Layout → Layout}
    (hfg : ∀ next layout, next.Represents layout → (f next).Represents (g layout)) :
    Refines registry (outcome.map (.andThen f)) (result.map g) := by
  cases h with
  | done hnext => exact .done (hfg _ _ hnext)
  | refused e => exact .refused e

section

variable {registry : Registry} {layout : Layout} (h : registry.Represents layout)
include h

/-- **A declaration** goes to the index that `lookup` has, or makes a new one. -/
theorem refines_declare (name : Text) (kind : Kind) (negated : Bool) :
    Refines registry (registry.declare name kind negated)
      ((Layout.declare name kind negated layout.params).map fun params =>
        { layout with params }) := by
  have hlookup := h.lookup name
  rw [declare]
  cases hi : layout.index? name with
  | none =>
    rw [hlookup, hi, Layout.declare_of_findIdx?_eq_none hi]
    refine .done ⟨h.placeholders, by rw [h.params], fun other => ?_, h.indexes, h.keys⟩
    rw [Dict.get?_insert, Layout.index?_append, h.lookup, h.params]
    by_cases hother : other = name
    · subst hother
      rw [if_pos rfl, if_pos rfl, hi, Option.none_or]
    · rw [if_neg hother, if_neg (Ne.symm hother), Option.or_none]
  | some i =>
    obtain ⟨param, hparam, hdeclare⟩ := Layout.declare_of_findIdx?_eq_some hi kind negated
    rw [hlookup, hi, hdeclare]
    dsimp only
    rw [h.params, hparam, Option.map_some]
    split_ifs with hkind
    · refine .done ⟨h.placeholders, rfl, fun other => ?_, h.indexes, h.keys⟩
      rw [h.lookup]
      refine Layout.index?_congr (Eq.symm ?_) other
      exact Layout.map_name_set hparam rfl
    · exact .refused _

/-- **One more placeholder** is recorded under its key. -/
theorem represents_push (key : Text) : (registry.push key).Represents (layout.push key) := by
  rw [push_eq]
  refine ⟨congrArg (· + 1) h.placeholders, h.params, h.lookup, fun other => ?_, ?_⟩
  · rw [Dict.get?_insert, Layout.positions?_push, h.indexes, h.indexes, h.placeholders]
  · -- the key is listed already exactly if it has positions
    have hkeys : (layout.push key).entries.map (·.1) = _ :=
      Layout.map_fst_record key (layout.placeholders + 1) layout.entries
    rw [hkeys, h.indexes, h.keys]
    by_cases hkey : key ∈ layout.entries.map (·.1)
    · rw [if_pos hkey, if_neg (mt Layout.positions?_eq_none_iff.mp (not_not_intro hkey))]
    · rw [if_neg hkey, if_pos (Layout.positions?_eq_none_iff.mpr hkey)]

theorem represents_foldl_push (keys : List Text) :
    (keys.foldl push registry).Represents (keys.foldl Layout.push layout) := by
  induction keys generalizing registry layout with
  | nil => exact h
  | cons key keys ih => exact ih (represents_push h key)

/-- **One operation** refines that on the layout. -/
theorem refines_apply (operation : Layout.Operation) :
    Refines registry (registry.apply operation) (layout.apply operation) := by
  rw [apply_eq_declare, Layout.apply_eq_add, Layout.add_eq_declare]
  exact (refines_declare h _ _ _).andThen fun _ _ hnext => represents_foldl_push hnext _

/-- A registry takes every operation, and goes on as the layout does. -/
theorem exists_outcome_apply (operation : Layout.Operation) :
    ∃ outcome, registry.apply operation = some outcome ∧
      outcome.registry.Represents (layout.after operation) ∧
      ((∃ next, outcome = .done next) ↔ ∃ next, layout.apply operation = .ok next) := by
  have hrefines := refines_apply h operation
  rw [Layout.after]
  generalize registry.apply operation = outcome at hrefines
  generalize layout.apply operation = result at hrefines
  cases hrefines with
  | done hnext => exact ⟨_, rfl, hnext, by simp⟩
  | refused e => exact ⟨_, rfl, h, by simp⟩

end

/-! ### Any operations -/

theorem run_concat (history : List Layout.Operation) (operation : Layout.Operation) :
    run (history ++ [operation]) =
      (run history).bind fun registry => (registry.apply operation).map Outcome.registry := by
  rw [run, List.foldlM_append]
  simp only [List.foldlM_cons, List.foldlM_nil, bind_pure]
  rfl

/-- **After any operations** there is a registry, and it represents the layout after them. -/
theorem represents_run (history : List Layout.Operation) :
    ∃ registry, run history = some registry ∧
      registry.Represents (Layout.ofHistory history) := by
  induction history using List.reverseRecOn with
  | nil => exact ⟨empty, rfl, represents_empty⟩
  | append_singleton history operation ih =>
    obtain ⟨registry, hrun, hrepresents⟩ := ih
    obtain ⟨outcome, happly, hnext, -⟩ := exists_outcome_apply hrepresents operation
    rw [run_concat, hrun, Option.bind_some, happly, Layout.ofHistory_concat]
    exact ⟨_, rfl, hnext⟩

/-- The operation was carried out and not refused, somewhere in the history. -/
def Succeeds (history : List Layout.Operation) (operation : Layout.Operation) : Prop :=
  ∃ earlier later registry next, history = earlier ++ operation :: later ∧
    run earlier = some registry ∧ registry.apply operation = some (.done next)

theorem succeeds_iff {history : List Layout.Operation} {operation : Layout.Operation} :
    Succeeds history operation ↔ Layout.Succeeds history operation := by
  refine exists₂_congr fun earlier later => ?_
  obtain ⟨registry, hrun, hrepresents⟩ := represents_run earlier
  obtain ⟨outcome, happly, -, hdone⟩ := exists_outcome_apply hrepresents operation
  simp only [exists_and_left, hrun, happly, Option.some.injEq, exists_eq_left']
  exact and_congr_right fun _ => hdone

/-! ### Consistency -/

/-- **The five fields of a registry agree.** -/
structure Consistent (registry : Registry) : Prop where
  /-- No two parameters have the same name. -/
  nodup_names : (registry.params.map (·.name)).Nodup
  /-- Exactly the names of the parameters are looked up, each at its index. -/
  lookup_eq_some_iff : ∀ name i,
    registry.lookup.get? name = some i ↔ (registry.params.map (·.name))[i]? = some name
  /-- No key is listed twice. -/
  nodup_keys : registry.keys.Nodup
  /-- The keys that are listed are those that have positions. -/
  mem_keys_iff_indexes : ∀ key,
    key ∈ registry.keys ↔ ∃ positions, registry.indexes.get? key = some positions
  /-- The keys are the names of the scalars, and the slot keys of the elements of the lists. -/
  mem_keys_iff : ∀ key, key ∈ registry.keys ↔
    ∃ param ∈ registry.params, param.kind = .scalar ∧ key = param.name ∨
      ∃ capacity, param.kind = .list capacity ∧ ∃ i < capacity, key = slotKey param.name i
  /-- Every key has a position, and its positions ascend. -/
  ascending : ∀ key positions, registry.indexes.get? key = some positions →
    positions ≠ [] ∧ positions.Pairwise (· < ·)
  /-- No two keys have a position in common. -/
  disjoint : ∀ key other positions others, key ≠ other →
    registry.indexes.get? key = some positions → registry.indexes.get? other = some others →
      positions.Disjoint others
  /-- The positions of the keys are those of all placeholders. -/
  exists_mem_iff : ∀ position,
    (∃ key positions, registry.indexes.get? key = some positions ∧ position ∈ positions) ↔
      1 ≤ position ∧ position ≤ registry.placeholders
  /-- The keys are listed in the order of their first positions. -/
  ordered : registry.keys.Pairwise fun key other => ∀ first rest first' rest',
    registry.indexes.get? key = some (first :: rest) →
      registry.indexes.get? other = some (first' :: rest') → first < first'

section

variable {registry : Registry} {layout : Layout} (h : registry.Represents layout)
  (hlayout : layout.Consistent)
include h hlayout

theorem Represents.indexes_eq_some_iff (key : Text) (positions : List Nat) :
    registry.indexes.get? key = some positions ↔ (key, positions) ∈ layout.entries := by
  rw [h.indexes, hlayout.positions?_eq_some_iff]

/-- A registry that represents a consistent layout is consistent. -/
theorem Represents.consistent : registry.Consistent where
  nodup_names := h.params ▸ hlayout.nodup_names
  lookup_eq_some_iff name i := by rw [h.lookup, h.params, hlayout.index?_eq_some_iff]
  nodup_keys := h.keys ▸ hlayout.nodup_keys
  mem_keys_iff_indexes key := by
    simp only [h.indexes_eq_some_iff hlayout, h.keys, List.mem_map, Prod.exists,
      exists_and_right, exists_eq_right]
  mem_keys_iff key := by rw [h.keys, h.params, hlayout.mem_keys_iff]
  ascending key positions hkey :=
    hlayout.ascending _ ((h.indexes_eq_some_iff hlayout key positions).mp hkey)
  disjoint key other positions others hne hkey hother := by
    rw [h.indexes_eq_some_iff hlayout] at hkey hother
    have : Std.Symm fun a b : Text × List Nat => a.2.Disjoint b.2 :=
      ⟨fun _ _ => List.disjoint_symm⟩
    exact hlayout.disjoint.forall hkey hother fun heq => hne (congrArg Prod.fst heq)
  exists_mem_iff position := by
    simp only [h.indexes_eq_some_iff hlayout, h.placeholders, ← hlayout.exists_mem_iff,
      Prod.exists]
  ordered := by
    rw [h.keys, List.pairwise_map]
    refine hlayout.ordered.imp_of_mem fun {a b} ha hb hlt first rest first' rest' hkey hother => ?_
    rw [← hlayout.positions?_eq_some_iff] at ha hb
    rw [h.indexes, ha] at hkey
    rw [h.indexes, hb] at hother
    rw [Option.some.inj hkey, Option.some.inj hother] at hlt
    exact hlt

end

/-! ### Conflicts -/

/-- A parameter of the name is of another kind. -/
def Conflicts (registry : Registry) (name : Text) (kind : Kind) : Prop :=
  ∃ param ∈ registry.params, param.name = name ∧ param.kind ≠ kind

section

variable {registry : Registry} (h : registry.Consistent)
include h

/-- The index that `lookup` has for a name is that of its one parameter. -/
theorem Consistent.exists_param_of_lookup {name : Text} {i : Nat}
    (hi : registry.lookup.get? name = some i) :
    ∃ param, registry.params[i]? = some param ∧
      ∀ other ∈ registry.params, other.name = name ↔ other = param := by
  have hname := (h.lookup_eq_some_iff name i).mp hi
  rw [List.getElem?_map] at hname
  obtain ⟨param, hparam, rfl⟩ := Option.map_eq_some_iff.mp hname
  refine ⟨param, hparam, fun other hother => ⟨fun heq => ?_, congrArg Param.name⟩⟩
  -- another parameter of the name would be looked up at another index
  obtain ⟨j, hj⟩ := List.mem_iff_getElem?.mp hother
  have hlookup : registry.lookup.get? param.name = some j := by
    rw [h.lookup_eq_some_iff, List.getElem?_map, hj, Option.map_some, heq]
  obtain rfl := Option.some.inj (hi.symm.trans hlookup)
  exact Option.some.inj (hj.symm.trans hparam)

theorem Consistent.name_ne_of_lookup {name : Text} (hnone : registry.lookup.get? name = none) :
    ∀ param ∈ registry.params, param.name ≠ name := by
  rintro param hparam rfl
  obtain ⟨i, hi⟩ := List.mem_iff_getElem?.mp hparam
  have hlookup : registry.lookup.get? param.name = some i := by
    rw [h.lookup_eq_some_iff, List.getElem?_map, hi, Option.map_some]
  rw [hnone] at hlookup
  cases hlookup

theorem Consistent.declare_cases (name : Text) (kind : Kind) (negated : Bool) :
    registry.Conflicts name kind ∧ registry.declare name kind negated =
        some (.refused registry (.conflictingKinds name)) ∨
      ¬registry.Conflicts name kind ∧
        ∃ next, registry.declare name kind negated = some (.done next) := by
  rw [declare]
  cases hi : registry.lookup.get? name with
  | none =>
    refine Or.inr ⟨?_, _, rfl⟩
    rintro ⟨param, hparam, hname, -⟩
    exact h.name_ne_of_lookup hi param hparam hname
  | some i =>
    obtain ⟨param, hparam, hunique⟩ := h.exists_param_of_lookup hi
    have hmem := List.mem_of_getElem? hparam
    dsimp only
    rw [hparam, Option.map_some]
    by_cases hkind : param.kind = kind
    · rw [if_pos hkind]
      refine Or.inr ⟨?_, _, rfl⟩
      rintro ⟨other, hother, hname, hne⟩
      rw [(hunique other hother).mp hname] at hne
      exact hne hkind
    · rw [if_neg hkind]
      exact Or.inl ⟨⟨param, hmem, (hunique param hmem).mpr rfl, hkind⟩, rfl⟩

/-- **An operation is refused** where it conflicts with a parameter, and leaves the registry as it
is; else it is carried out. -/
theorem Consistent.apply_cases (operation : Layout.Operation) :
    registry.Conflicts operation.use.name operation.use.kind ∧ registry.apply operation =
        some (.refused registry (.conflictingKinds operation.use.name)) ∨
      ¬registry.Conflicts operation.use.name operation.use.kind ∧
        ∃ next, registry.apply operation = some (.done next) := by
  rw [apply_eq_declare]
  refine (h.declare_cases _ _ operation.use.negated).imp (And.imp_right fun hdeclare => ?_)
    (And.imp_right fun ⟨next, hdeclare⟩ => ?_)
  · rw [hdeclare]
    rfl
  · rw [hdeclare]
    exact ⟨_, rfl⟩

end

/-- **Registries after any operations.** There is one, and its fields agree. The parameters stand in
the order in which their names first occur in an operation, each is of the kind of the operations on
it that succeeded, and it is negated exactly if one of these was. One more operation is refused if a
parameter of its name is of another kind, and then leaves the registry as it is. -/
theorem consistent_run (history : List Layout.Operation) :
    ∃ registry, run history = some registry ∧ registry.Consistent ∧
      registry.params.map (·.name) = (history.map (·.use.name)).eraseDups ∧
      (∀ operation, Succeeds history operation → ∃ param ∈ registry.params,
        param.name = operation.use.name ∧ param.kind = operation.use.kind) ∧
      (∀ param ∈ registry.params, (param.negated = true ↔
        ∃ capacity, Succeeds history (.list param.name capacity true))) ∧
      ∀ operation,
        registry.Conflicts operation.use.name operation.use.kind ∧ registry.apply operation =
            some (.refused registry (.conflictingKinds operation.use.name)) ∨
          ¬registry.Conflicts operation.use.name operation.use.kind ∧
            ∃ next, registry.apply operation = some (.done next) := by
  obtain ⟨registry, hrun, h⟩ := represents_run history
  obtain ⟨hlayout, hnames, hkinds, hnegated⟩ := Layout.consistent_ofHistory history
  have hconsistent := h.consistent hlayout
  refine ⟨registry, hrun, hconsistent, ?_, ?_, ?_, hconsistent.apply_cases⟩
  · rw [h.params]
    exact hnames
  · rw [h.params]
    exact fun operation hsucceeds => hkinds operation (succeeds_iff.mp hsucceeds)
  · simp only [h.params, succeeds_iff]
    exact hnegated

/-- A scalar may be named like an element of a list. The two share a key, which is listed once and
has the positions of both. The third operation is refused. -/
example : run [.scalar "a__0".toList, .list "a".toList 1 true, .scalar "a".toList,
      .list "a".toList 1 false] =
    some ⟨3, [⟨"a__0".toList, .scalar, false⟩, ⟨"a".toList, .list 1, true⟩],
      .ofList [("a__0".toList, 0), ("a".toList, 1)], .ofList [("a__0".toList, [1, 2, 3])],
      ["a__0".toList]⟩ := by
  decide +kernel

/-! ### Queries -/

theorem mapM_get?_keys {indexes : Dict (List Nat)} {entries : List (Text × List Nat)}
    (h : ∀ entry ∈ entries, indexes.get? entry.1 = some entry.2) :
    (entries.map (·.1)).mapM (fun key => (indexes.get? key).map (key, ·)) = some entries := by
  induction entries with
  | nil => rfl
  | cons entry rest ih =>
    rw [List.map_cons, List.mapM_cons, h entry List.mem_cons_self,
      ih fun other hother => h other (List.mem_cons_of_mem _ hother)]
    rfl

section

variable {registry : Registry} {layout : Layout} (h : registry.Represents layout)
include h

/-- The index of a name is in range. -/
theorem Represents.param?_eq (name : Text) : registry.param? name = some (layout.param? name) := by
  rw [param?, h.lookup, Layout.param?_eq_bind_index?]
  cases hi : layout.index? name with
  | none => rfl
  | some i =>
    obtain ⟨hlt, -⟩ := List.findIdx?_eq_some_iff_getElem.mp hi
    simp only [h.params, Option.bind_some, List.getElem?_eq_getElem hlt, Option.map_some]

theorem Represents.kind?_eq (name : Text) :
    registry.kind? name = some ((layout.param? name).map (·.kind)) := by
  rw [kind?, h.param?_eq, Option.map_some]

/-- Every key that is listed has its positions. -/
theorem Represents.entries?_eq (hlayout : layout.Consistent) :
    registry.entries? = some layout.entries := by
  rw [entries?, h.keys]
  exact mapM_get?_keys fun entry hentry => (h.indexes_eq_some_iff hlayout _ _).mpr hentry

end

end Registry

namespace Layout

/-- The operation that makes a use. -/
def Operation.ofUse (use : Param) : Operation :=
  match use.kind with
  | .scalar => .scalar use.name
  | .list capacity => .list use.name capacity use.negated

theorem apply_ofUse (layout : Layout) {use : Param}
    (h : use.kind = .scalar → use.negated = false) :
    layout.apply (.ofUse use) = layout.add use := by
  obtain ⟨name, kind, negated⟩ := use
  cases kind with
  | scalar =>
    obtain rfl : negated = false := h rfl
    rfl
  | list capacity => rfl

/-- Where all uses are added, no operation is refused. -/
theorem foldl_after_of_foldlM_add {uses : List Param} {layout last : Layout}
    (huses : ∀ use ∈ uses, use.kind = .scalar → use.negated = false)
    (h : uses.foldlM add layout = .ok last) : (uses.map .ofUse).foldl after layout = last := by
  induction uses generalizing layout with
  | nil => exact Except.ok.inj h
  | cons use uses ih =>
    rw [List.foldlM_cons] at h
    have happly := apply_ofUse layout (huses use List.mem_cons_self)
    rw [List.map_cons, List.foldl_cons, after, happly]
    cases hadd : layout.add use with
    | error e => rw [hadd] at h; cases h
    | ok next =>
      rw [hadd] at h
      exact ih (fun other hother => huses other (List.mem_cons_of_mem _ hother)) h

end Layout

namespace Registry

variable {dialect : Dialect} {capacities : Dict Nat}

/-- The operations that a compilation carries out, one for each reference that it visits. -/
def operations (dialect : Dialect) (capacities : Dict Nat) (text : Text) :
    List Layout.Operation :=
  ((dialect.visits capacities text).map (Visit.use dialect capacities)).map .ofUse

/-- **The registry of a compilation** represents the layout of the plan: it has the same parameters
and entries, and finds what the plan finds, without slipping. -/
theorem represents_of_compile {text : Text} {plan : Plan}
    (h : dialect.compile text capacities = .ok plan) :
    ∃ registry, run (operations dialect capacities text) = some registry ∧
      registry.Consistent ∧ registry.Represents plan.layout ∧
      (∀ name, registry.param? name = some (plan.param? name)) ∧
      (∀ name, registry.kind? name = some ((plan.param? name).map (·.kind))) ∧
      (∀ key positions, plan.positions key = .ok positions ↔
        registry.indexes.get? key = some positions) ∧
      registry.entries? = some plan.entries := by
  have hlayout : Layout.ofHistory (operations dialect capacities text) = plan.layout := by
    obtain ⟨last, hlast, rfl⟩ := Dialect.exists_of_compile h
    refine Layout.foldl_after_of_foldlM_add (fun use huse hkind => ?_)
      (Dialect.foldlM_add_run hlast).1
    obtain ⟨visit, -, rfl⟩ := List.mem_map.mp huse
    rw [Visit.use, Context.kind_eq_scalar_iff.mp hkind]
    rfl
  obtain ⟨registry, hrun, hrepresents⟩ := represents_run (operations dialect capacities text)
  have hconsistent := (Layout.consistent_ofHistory (operations dialect capacities text)).1
  rw [hlayout] at hrepresents hconsistent
  refine ⟨registry, hrun, hrepresents.consistent hconsistent, hrepresents, hrepresents.param?_eq,
    hrepresents.kind?_eq, fun key positions => ?_, hrepresents.entries?_eq hconsistent⟩
  rw [hrepresents.indexes, Plan.positions]
  cases plan.layout.positions? key <;> simp

end Registry

end NamedSql
