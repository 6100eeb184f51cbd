import NamedSql.Proofs.Uses

/-! # Layouts joined

When one list of uses follows another, the layout of both can be told from the layouts of the two
(`join_ofUses`): the parameters of the second that the first has as well may be negated by the
second, the other ones come last, and the positions of the second are moved behind the placeholders
of the first (`param?_join`, `positions?_join`). -/

namespace NamedSql

namespace Layout

/-- The placeholders of one layout and behind them those of another. -/
def join (a b : Layout) : Layout where
  placeholders := a.placeholders + b.placeholders
  params := (a.params.map fun param =>
      { param with negated := param.negated || (b.param? param.name).any (·.negated) }) ++
    b.params.filter fun param => (a.param? param.name).isNone
  entries := (a.entries.map fun (key, positions) =>
      (key, positions ++ ((b.positions? key).getD []).map (a.placeholders + ·))) ++
    (b.entries.filter fun entry => (a.positions? entry.1).isNone).map fun (key, positions) =>
      (key, positions.map (a.placeholders + ·))

/-- Entries that the first layout has under their names are passed over, and no other ones. -/
theorem find?_filter_isNone {α β : Type} (key : α → Text) {f : Text → Option β} {name : Text}
    (h : f name = none) (l : List α) :
    (l.filter fun a => (f (key a)).isNone).find? (fun a => key a == name) =
      l.find? fun a => key a == name := by
  rw [List.find?_filter]
  refine congrArg (fun p => List.find? p l) (funext fun a => ?_)
  by_cases hkey : key a = name
  · simp [hkey, h]
  · simp [hkey]

/-- The positions of a key are those in the first layout, and then those in the second. -/
theorem positions?_join (a b : Layout) (key : Text) :
    (a.join b).positions? key = Option.merge (· ++ ·) (a.positions? key)
      ((b.positions? key).map (List.map (a.placeholders + ·))) := by
  rw [positions?, join, List.find?_append, List.find?_map, List.find?_map]
  cases ha : a.entries.find? fun entry => entry.1 == key with
  | some entry =>
    have hkey : entry.1 = key := by simpa using List.find?_some ha
    simp only [Function.comp_def, ha, positions?, Option.map_some, Option.some_or, hkey]
    cases b.entries.find? fun entry => entry.1 == key <;> simp
  | none =>
    have hnone : a.positions? key = none := by rw [positions?, ha, Option.map_none]
    have hfilter := find?_filter_isNone (fun entry : Text × List Nat => entry.1) hnone b.entries
    simp only [Function.comp_def, ha, hfilter, hnone, Option.map_none, Option.none_or]
    rw [positions?]
    cases b.entries.find? fun entry => entry.1 == key <;> rfl

/-- A parameter is that of the first layout, negated also by the second, or else that of the
second. -/
theorem param?_join (a b : Layout) (name : Text) :
    (a.join b).param? name = Option.merge
      (fun param other => { param with negated := param.negated || other.negated })
      (a.param? name) (b.param? name) := by
  rw [param?, join, List.find?_append, List.find?_map]
  cases ha : a.params.find? fun param => param.name == name with
  | some param =>
    obtain rfl : param.name = name := by simpa using List.find?_some ha
    simp only [Function.comp_def, ha, param?, Option.map_some, Option.some_or]
    cases b.params.find? fun other => other.name == param.name <;> simp [Option.merge]
  | none =>
    have hnone : a.param? name = none := ha
    have hfilter := find?_filter_isNone Param.name hnone b.params
    simp only [Function.comp_def, ha, hfilter, hnone, Option.map_none, Option.none_or]
    cases h : b.param? name <;> exact h

/-! ### Lists one after the other -/

theorem eraseDups_filter {α : Type} [BEq α] [LawfulBEq α] (p : α → Bool) (l : List α) :
    (l.filter p).eraseDups = l.eraseDups.filter p := by
  induction l using List.reverseRecOn with
  | nil => rfl
  | append_singleton l a ih =>
    rw [List.filter_append, eraseDups_concat, List.filter_singleton]
    cases hp : p a with
    | true =>
      rw [cond_true, eraseDups_concat, ih]
      by_cases ha : a ∈ l
      · rw [if_pos ha, if_pos (List.mem_filter.mpr ⟨ha, hp⟩)]
      · rw [if_neg ha, if_neg fun h => ha (List.mem_filter.mp h).1, List.filter_append,
          List.filter_singleton, hp, cond_true]
    | false =>
      rw [cond_false, List.append_nil, ih]
      split_ifs
      · rfl
      · rw [List.filter_append, List.filter_singleton, hp, cond_false, List.append_nil]

/-- What occurs in one of two lists stands in the order of the first, and then of the second. -/
theorem eraseDups_append {α : Type} [BEq α] [LawfulBEq α] (l r : List α) :
    (l ++ r).eraseDups = l.eraseDups ++ r.eraseDups.filter fun a => decide (a ∉ l) := by
  rw [List.eraseDups_append, List.removeAll, eraseDups_filter]
  simp

theorem positionsOf_append (key : Text) (keys more : List Text) :
    positionsOf key (keys ++ more) =
      positionsOf key keys ++ (positionsOf key more).map (keys.length + ·) := by
  induction more using List.reverseRecOn with
  | nil => simp [positionsOf]
  | append_singleton more last ih =>
    rw [← List.append_assoc, positionsOf_concat, positionsOf_concat, ih]
    split_ifs
    · simp [Nat.add_assoc]
    · rfl

/-! ### Uses one after the other -/

theorem merge_append_of_mem {uses more : List Param} {name : Text} (h : name ∈ uses.map (·.name)) :
    merge (uses ++ more) name = { merge uses name with
      negated := (merge uses name).negated || ((ofUses more).param? name).any (·.negated) } := by
  obtain ⟨first, hfirst⟩ : ∃ first, (uses.find? fun use => use.name == name) = some first := by
    obtain ⟨use, huse, hname⟩ := List.mem_map.mp h
    exact Option.isSome_iff_exists.mp (List.find?_isSome.mpr ⟨use, huse, beq_iff_eq.mpr hname⟩)
  have hmore : ((ofUses more).param? name).any (·.negated) = (merge more name).negated := by
    rw [param?_ofUses_eq]
    split_ifs with hname
    · rfl
    · -- nothing is negated that does not occur
      refine (List.any_eq_false.mpr fun use huse => ?_).symm
      have hne : use.name ≠ name := fun heq => hname (List.mem_map.mpr ⟨use, huse, heq⟩)
      simp [hne]
  rw [hmore]
  simp [merge, List.find?_append, hfirst]

theorem params_ofUses (uses : List Param) :
    (ofUses uses).params = (uses.map (·.name)).eraseDups.map (merge uses) := rfl

theorem entries_ofUses (uses : List Param) :
    (ofUses uses).entries = entriesOf (uses.flatMap Param.keys) := rfl

theorem params_join_ofUses (uses more : List Param) :
    ((ofUses uses).join (ofUses more)).params = (ofUses (uses ++ more)).params := by
  rw [params_ofUses, List.map_append, eraseDups_append, List.map_append, join]
  dsimp only
  rw [params_ofUses, params_ofUses, List.map_map, List.filter_map]
  refine congrArg₂ (· ++ ·) (List.map_congr_left fun name hname => ?_) ?_
  · rw [merge_append_of_mem (List.mem_eraseDups.mp hname)]
    rfl
  · have hfilter : ∀ name, (((ofUses uses).param? (merge more name).name).isNone) =
        decide (name ∉ uses.map (·.name)) := by
      intro name
      rw [show (merge more name).name = name from rfl, param?_ofUses_eq]
      split_ifs with h <;> simp [h]
    simp only [Function.comp_def, hfilter]
    refine List.map_congr_left fun name hname => ?_
    rw [merge_append_of_not_mem (by simpa using (List.mem_filter.mp hname).2)]

theorem entries_join_ofUses (uses more : List Param) :
    ((ofUses uses).join (ofUses more)).entries = (ofUses (uses ++ more)).entries := by
  rw [entries_ofUses, List.flatMap_append, entriesOf, eraseDups_append, List.map_append, join]
  dsimp only
  rw [entries_ofUses, entries_ofUses, entriesOf, entriesOf, List.map_map, List.filter_map,
    List.map_map]
  refine congrArg₂ (· ++ ·) (List.map_congr_left fun key _ => ?_) ?_
  · have hmore : ((ofUses more).positions? key).getD [] =
        positionsOf key (more.flatMap Param.keys) := by
      rw [positions?_ofUses_eq]
      split_ifs with h
      · rfl
      · exact (positionsOf_eq_nil h).symm
    rw [Function.comp_apply, hmore, positionsOf_append]
    rfl
  · have hfilter : ∀ key, ((ofUses uses).positions? key).isNone =
        decide (key ∉ uses.flatMap Param.keys) := by
      intro key
      rw [positions?_ofUses_eq]
      split_ifs with h <;> simp [h]
    simp only [Function.comp_def, hfilter]
    refine List.map_congr_left fun key hkey => ?_
    have hkey : key ∉ uses.flatMap Param.keys := of_decide_eq_true (List.mem_filter.mp hkey).2
    rw [positionsOf_append, positionsOf_eq_nil hkey, List.nil_append]
    rfl

/-- **Uses one after the other** make the one layout and the other joined. -/
theorem join_ofUses (uses more : List Param) :
    (ofUses uses).join (ofUses more) = ofUses (uses ++ more) := by
  refine Layout.mk.injEq .. |>.mpr ⟨?_, params_join_ofUses uses more, entries_join_ofUses uses more⟩
  rw [List.flatMap_append, List.length_append]
  rfl

end Layout

end NamedSql
