import Mathlib.Algebra.GroupWithZero.Nat
import Mathlib.Data.List.Perm.Basic
import NamedSql.Proofs.Uses

/-! # Layouts after any operations

A layout is changed by adding references to scalars and to lists, and an operation that is refused
changes nothing. Whatever operations are carried out on the empty layout, its parts agree
(`Consistent`): every name and every key is there once and found where it stands, the keys are those
of the parameters, and the positions of the keys share out the placeholders.

The operations that are not refused make uses, one after the other (`after_ofUses`), and a layout is
the table of its uses. In a table the positions of a key are the places of its uses
(`mem_positionsOf`), so they ascend, none of them belongs to two keys, and keys that were used
earlier begin earlier; hence a table is consistent (`consistent_ofUses`). -/

namespace NamedSql

namespace Layout

/-! ### The positions of a key -/

theorem positionsOf_ne_nil {key : Text} {keys : List Text} (h : key ∈ keys) :
    positionsOf key keys ≠ [] := by
  obtain ⟨n, hn⟩ := List.mem_iff_getElem?.mp h
  exact List.ne_nil_of_mem (mem_positionsOf.mpr ⟨n, rfl, hn⟩)

theorem le_length_of_mem_positionsOf {key : Text} {keys : List Text} {position : Nat}
    (h : position ∈ positionsOf key keys) : position ≤ keys.length := by
  obtain ⟨n, rfl, hn⟩ := mem_positionsOf.mp h
  exact (List.getElem?_eq_some_iff.mp hn).1

theorem pairwise_positionsOf (key : Text) (keys : List Text) :
    (positionsOf key keys).Pairwise (· < ·) := by
  induction keys using List.reverseRecOn with
  | nil => exact List.Pairwise.nil
  | append_singleton keys last ih =>
    rw [positionsOf_concat]
    split_ifs
    · refine List.pairwise_append.mpr ⟨ih, List.pairwise_singleton _ _, ?_⟩
      intro position hposition next hnext
      have hle := le_length_of_mem_positionsOf hposition
      rw [List.mem_singleton.mp hnext]
      omega
    · exact ih

/-- A key has a position for each of its uses. -/
theorem length_positionsOf (key : Text) (keys : List Text) :
    (positionsOf key keys).length = keys.count key := by
  induction keys using List.reverseRecOn with
  | nil => rfl
  | append_singleton keys last ih =>
    rw [positionsOf_concat, List.count_append]
    by_cases h : last = key
    · subst h
      rw [if_pos rfl, List.length_append, ih, List.count_singleton_self, List.length_singleton]
    · rw [if_neg h, ih, List.count_eq_zero.mpr fun hmem => h (List.mem_singleton.mp hmem).symm,
        Nat.add_zero]

/-- One position belongs to one key. -/
theorem disjoint_positionsOf {key other : Text} (h : key ≠ other) (keys : List Text) :
    (positionsOf key keys).Disjoint (positionsOf other keys) := by
  intro position hkey hother
  obtain ⟨n, rfl, hn⟩ := mem_positionsOf.mp hkey
  obtain ⟨m, hm, hget⟩ := mem_positionsOf.mp hother
  obtain rfl : n = m := Nat.succ.inj hm
  rw [hn] at hget
  exact h (Option.some.inj hget)

theorem headD_positionsOf_concat {key : Text} {keys : List Text} (h : key ∈ keys) (last : Text) :
    (positionsOf key (keys ++ [last])).headD 0 = (positionsOf key keys).headD 0 := by
  obtain ⟨first, rest, hfirst⟩ := List.exists_cons_of_ne_nil (positionsOf_ne_nil h)
  rw [positionsOf_concat, hfirst]
  split_ifs <;> rfl

/-- Keys that were used earlier begin earlier. -/
theorem pairwise_headD_positionsOf (keys : List Text) :
    keys.eraseDups.Pairwise fun a b =>
      (positionsOf a keys).headD 0 < (positionsOf b keys).headD 0 := by
  induction keys using List.reverseRecOn with
  | nil => exact List.Pairwise.nil
  | append_singleton keys last ih =>
    have hold : keys.eraseDups.Pairwise fun a b =>
        (positionsOf a (keys ++ [last])).headD 0 < (positionsOf b (keys ++ [last])).headD 0 := by
      refine ih.imp_of_mem fun {a b} ha hb hlt => ?_
      rwa [headD_positionsOf_concat (List.mem_eraseDups.mp ha),
        headD_positionsOf_concat (List.mem_eraseDups.mp hb)]
    rw [eraseDups_concat]
    split_ifs with h
    · exact hold
    · refine List.pairwise_append.mpr ⟨hold, List.pairwise_singleton _ _, ?_⟩
      intro a ha b hb
      have hmem := List.mem_eraseDups.mp ha
      obtain ⟨first, rest, hfirst⟩ := List.exists_cons_of_ne_nil (positionsOf_ne_nil hmem)
      have hle : first ≤ keys.length :=
        le_length_of_mem_positionsOf (hfirst ▸ List.mem_cons_self)
      rw [List.mem_singleton.mp hb, headD_positionsOf_concat hmem, hfirst, positionsOf_concat,
        if_pos rfl, positionsOf_eq_nil h]
      exact Nat.lt_succ_of_le hle

/-! ### Consistency -/

/-- The place of a parameter in the order of discovery. -/
def index? (layout : Layout) (name : Text) : Option Nat :=
  layout.params.findIdx? fun param => param.name == name

/-- **The parts of a layout agree.** -/
structure Consistent (layout : Layout) : Prop where
  /-- No two parameters have the same name. -/
  nodup_names : (layout.params.map (·.name)).Nodup
  /-- Exactly the names of the parameters have a place, each its own. -/
  index?_eq_some_iff : ∀ name i,
    layout.index? name = some i ↔ (layout.params.map (·.name))[i]? = some name
  /-- A parameter is found by its name. -/
  param?_eq_some_iff : ∀ name param,
    layout.param? name = some param ↔ ∃ i, layout.index? name = some i ∧
      layout.params[i]? = some param
  /-- No key is there twice. -/
  nodup_keys : (layout.entries.map (·.1)).Nodup
  /-- The positions of a key are found by the key, and nothing else is found. -/
  positions?_eq_some_iff : ∀ key positions,
    layout.positions? key = some positions ↔ (key, positions) ∈ layout.entries
  /-- The keys are the names of the scalars, and the slot keys of the elements of the lists. -/
  mem_keys_iff : ∀ key, key ∈ layout.entries.map (·.1) ↔
    ∃ param ∈ layout.params, param.kind = .scalar ∧ key = param.name ∨
      ∃ capacity, param.kind = .list capacity ∧ ∃ i < capacity, key = slotKey param.name i
  /-- Every key has a position, and its positions ascend. -/
  ascending : ∀ entry ∈ layout.entries, entry.2 ≠ [] ∧ entry.2.Pairwise (· < ·)
  /-- No two keys have a position in common. -/
  disjoint : layout.entries.Pairwise fun a b => a.2.Disjoint b.2
  /-- The positions of the keys are those of all placeholders. -/
  exists_mem_iff : ∀ position, (∃ entry ∈ layout.entries, position ∈ entry.2) ↔
    1 ≤ position ∧ position ≤ layout.placeholders
  /-- The keys stand in the order of their first positions. -/
  ordered : layout.entries.Pairwise fun a b => a.2.headD 0 < b.2.headD 0

theorem findIdx?_names {l : List Param} (hl : (l.map (·.name)).Nodup) (name : Text) (i : Nat) :
    l.findIdx? (fun param => param.name == name) = some i ↔
      (l.map (·.name))[i]? = some name := by
  rw [List.findIdx?_eq_some_iff_getElem, List.getElem?_eq_some_iff]
  constructor
  · rintro ⟨hi, hname, -⟩
    exact ⟨by rwa [List.length_map], by rw [List.getElem_map]; exact beq_iff_eq.mp hname⟩
  · rintro ⟨hi, hname⟩
    have hi' : i < l.length := by rwa [List.length_map] at hi
    refine ⟨hi', by rw [← hname, List.getElem_map]; exact beq_self_eq_true _, fun j hji hj => ?_⟩
    -- an earlier parameter of this name would be a second one
    have hj' : (l.map (·.name))[i]? = (l.map (·.name))[j]? := by
      rw [List.getElem?_eq_getElem hi, hname, List.getElem?_map,
        List.getElem?_eq_getElem (Nat.lt_trans hji hi')]
      exact congrArg some (beq_iff_eq.mp hj).symm
    have := (List.getElem?_inj hi hl).mp hj'
    omega

theorem param?_eq_bind_index? (layout : Layout) (name : Text) :
    layout.param? name = (layout.index? name).bind fun i => layout.params[i]? := by
  rw [param?, index?, List.find?_eq_bind_findIdx?_getElem?]

section

variable {uses : List Param}

theorem map_fst_entries_ofUses :
    (ofUses uses).entries.map (·.1) = (uses.flatMap Param.keys).eraseDups := by
  rw [ofUses, entriesOf, List.map_map]
  exact List.map_id'' (fun _ => rfl) _

theorem mem_entries_ofUses {key : Text} {positions : List Nat} :
    (key, positions) ∈ (ofUses uses).entries ↔
      key ∈ uses.flatMap Param.keys ∧
        positions = positionsOf key (uses.flatMap Param.keys) := by
  rw [ofUses, entriesOf, List.mem_map]
  constructor
  · rintro ⟨other, hother, heq⟩
    obtain ⟨rfl, rfl⟩ := Prod.mk.inj heq
    exact ⟨List.mem_eraseDups.mp hother, rfl⟩
  · rintro ⟨hkey, rfl⟩
    exact ⟨key, List.mem_eraseDups.mpr hkey, rfl⟩

theorem positions?_ofUses_eq_some_iff {key : Text} {positions : List Nat} :
    (ofUses uses).positions? key = some positions ↔
      key ∈ uses.flatMap Param.keys ∧
        positions = positionsOf key (uses.flatMap Param.keys) := by
  constructor
  · intro h
    obtain ⟨entry, hentry, rfl⟩ := Option.map_eq_some_iff.mp h
    have hmem := mem_entries_ofUses.mp (List.mem_of_find?_eq_some hentry)
    have hkey : entry.1 = key := by simpa using List.find?_some hentry
    rwa [hkey] at hmem
  · rintro ⟨hkey, rfl⟩
    exact positions?_ofUses hkey

/-- **A table is consistent.** -/
theorem consistent_ofUses (hu : Uniform uses) : (ofUses uses).Consistent where
  nodup_names := nodup_names_ofUses uses
  index?_eq_some_iff := findIdx?_names (nodup_names_ofUses uses)
  param?_eq_some_iff name param := by rw [param?_eq_bind_index?, Option.bind_eq_some_iff]
  nodup_keys := by
    rw [map_fst_entries_ofUses]
    exact nodup_eraseDups _
  positions?_eq_some_iff key positions := by
    rw [positions?_ofUses_eq_some_iff, mem_entries_ofUses]
  mem_keys_iff key := by
    rw [map_fst_entries_ofUses, List.mem_eraseDups, mem_flatMap_keys hu]
    simp only [Param.mem_keys]
  ascending entry hentry := by
    obtain ⟨hkey, hpositions⟩ := mem_entries_ofUses.mp hentry
    rw [hpositions]
    exact ⟨positionsOf_ne_nil hkey, pairwise_positionsOf _ _⟩
  disjoint := List.pairwise_map.mpr
    ((nodup_eraseDups _).imp fun hne => disjoint_positionsOf hne _)
  exists_mem_iff position := by
    constructor
    · rintro ⟨entry, hentry, hposition⟩
      rw [(mem_entries_ofUses.mp hentry).2] at hposition
      obtain ⟨n, rfl, -⟩ := mem_positionsOf.mp hposition
      exact ⟨Nat.succ_pos n, le_length_of_mem_positionsOf hposition⟩
    · rintro ⟨hpos, hle⟩
      have hlt : position - 1 < (uses.flatMap Param.keys).length := by
        have : (uses.flatMap Param.keys).length = (ofUses uses).placeholders := rfl
        omega
      refine ⟨(_, positionsOf (uses.flatMap Param.keys)[position - 1] (uses.flatMap Param.keys)),
        mem_entries_ofUses.mpr ⟨List.getElem_mem hlt, rfl⟩, ?_⟩
      exact mem_positionsOf.mpr ⟨position - 1, by omega, List.getElem?_eq_getElem hlt⟩
  ordered := List.pairwise_map.mpr (pairwise_headD_positionsOf _)

end

/-- The positions of the keys, taken together, are those of all placeholders, each once. -/
theorem Consistent.perm_positions {layout : Layout} (h : layout.Consistent) :
    (layout.entries.flatMap (·.2)).Perm (List.range' 1 layout.placeholders) := by
  have hnodup : (layout.entries.flatMap (·.2)).Nodup :=
    List.nodup_flatMap.mpr
      ⟨fun entry hentry => (h.ascending entry hentry).2.imp Nat.ne_of_lt, h.disjoint⟩
  refine (List.perm_ext_iff_of_nodup hnodup List.nodup_range').mpr fun position => ?_
  rw [List.mem_flatMap, h.exists_mem_iff, List.mem_range'_1]
  omega

theorem Consistent.sum_lengths {layout : Layout} (h : layout.Consistent) :
    (layout.entries.map (·.2.length)).sum = layout.placeholders := by
  have hlength := h.perm_positions.length_eq
  rw [List.length_flatMap, List.length_range'] at hlength
  exact hlength

/-! ### Operations -/

/-- The layout after an operation, which is the same if the operation is refused. -/
def after (layout : Layout) (operation : Operation) : Layout :=
  match layout.apply operation with
  | .ok next => next
  | .error _ => layout

/-- The layout after some operations on the empty one. -/
def ofHistory (history : List Operation) : Layout := history.foldl after empty

theorem apply_eq_add (layout : Layout) (operation : Operation) :
    layout.apply operation = layout.add operation.use := by
  cases operation <;> rfl

/-- The uses with that of one more operation, unless the operation is refused. -/
def accept (uses : List Param) (operation : Operation) : List Param :=
  if operation.use.name ∈ uses.map (·.name) ∧
      (merge uses operation.use.name).kind ≠ operation.use.kind then uses
  else uses ++ [operation.use]

/-- One operation adds its use or nothing. -/
theorem after_ofUses (uses : List Param) (operation : Operation) :
    (ofUses uses).after operation = ofUses (accept uses operation) := by
  rw [after, apply_eq_add, add_ofUses, accept]
  split_ifs <;> rfl

theorem uniform_accept {uses : List Param} (h : Uniform uses) (operation : Operation) :
    Uniform (accept uses operation) := by
  rw [accept]
  split_ifs with hrefused
  · exact h
  · exact uniform_concat h hrefused

/-- The names that were used are those of all operations, also of those that were refused. -/
theorem eraseDups_names_accept (uses : List Param) (operation : Operation) :
    ((accept uses operation).map (·.name)).eraseDups =
      (uses.map (·.name) ++ [operation.use.name]).eraseDups := by
  rw [accept]
  split_ifs with hrefused
  · rw [eraseDups_concat, if_pos hrefused.1]
  · rw [List.map_append, List.map_singleton]

/-- The uses that the operations of a history make, but for those that are refused. -/
def accepted (history : List Operation) : List Param := history.foldl accept []

theorem accepted_concat (history : List Operation) (operation : Operation) :
    accepted (history ++ [operation]) = accept (accepted history) operation := List.foldl_concat ..

theorem ofHistory_concat (history : List Operation) (operation : Operation) :
    ofHistory (history ++ [operation]) = (ofHistory history).after operation := List.foldl_concat ..

/-- A layout is the table of the uses that its history has made. -/
theorem ofHistory_eq (history : List Operation) :
    ofHistory history = ofUses (accepted history) ∧ Uniform (accepted history) := by
  induction history using List.reverseRecOn with
  | nil => exact ⟨rfl, fun _ h => absurd h List.not_mem_nil⟩
  | append_singleton history operation ih =>
    rw [ofHistory_concat, accepted_concat, ih.1, after_ofUses]
    exact ⟨rfl, uniform_accept ih.2 operation⟩

theorem eraseDups_names_accepted (history : List Operation) :
    ((accepted history).map (·.name)).eraseDups = (history.map (·.use.name)).eraseDups := by
  induction history using List.reverseRecOn with
  | nil => rfl
  | append_singleton history operation ih =>
    have hmem : operation.use.name ∈ (accepted history).map (·.name) ↔
        operation.use.name ∈ history.map (·.use.name) := by
      rw [← List.mem_eraseDups, ih, List.mem_eraseDups]
    rw [accepted_concat, eraseDups_names_accept, List.map_append, List.map_singleton,
      eraseDups_concat, eraseDups_concat, ih]
    simp only [hmem]

/-- The operation was carried out and not refused, somewhere in the history. -/
def Succeeds (history : List Operation) (operation : Operation) : Prop :=
  ∃ earlier later layout, history = earlier ++ operation :: later ∧
    (ofHistory earlier).apply operation = .ok layout

theorem succeeds_concat {history : List Operation} {last operation : Operation} :
    Succeeds (history ++ [last]) operation ↔
      Succeeds history operation ∨
        operation = last ∧ ∃ layout, (ofHistory history).apply last = .ok layout := by
  constructor
  · rintro ⟨earlier, later, layout, heq, hok⟩
    rcases List.eq_nil_or_concat later with rfl | ⟨later, other, rfl⟩
    · obtain ⟨rfl, hlast⟩ := List.append_inj' heq rfl
      obtain rfl : last = operation := List.singleton_inj.mp hlast
      exact Or.inr ⟨rfl, layout, hok⟩
    · rw [List.concat_eq_append, ← List.cons_append, ← List.append_assoc] at heq
      obtain ⟨rfl, -⟩ := List.append_inj' heq rfl
      exact Or.inl ⟨earlier, later, layout, rfl, hok⟩
  · rintro (⟨earlier, later, layout, rfl, hok⟩ | ⟨rfl, layout, hok⟩)
    · exact ⟨earlier, later ++ [last], layout, by simp, hok⟩
    · exact ⟨history, [], layout, rfl, hok⟩

theorem mem_accept {uses : List Param} {operation : Operation} {use : Param} :
    use ∈ accept uses operation ↔ use ∈ uses ∨
      operation.use = use ∧ ∃ layout, (ofUses uses).apply operation = .ok layout := by
  rw [apply_eq_add, add_ofUses, accept]
  split_ifs with h
  · simp
  · simp [eq_comm]

/-- The uses that were made are those of the operations that succeeded. -/
theorem mem_accepted {history : List Operation} {use : Param} :
    use ∈ accepted history ↔ ∃ operation, Succeeds history operation ∧ operation.use = use := by
  induction history using List.reverseRecOn with
  | nil =>
    constructor
    · exact fun h => absurd h List.not_mem_nil
    · rintro ⟨operation, ⟨earlier, later, layout, heq, -⟩, -⟩
      simp at heq
  | append_singleton history last ih =>
    rw [accepted_concat, mem_accept, ← (ofHistory_eq history).1, ih]
    simp only [succeeds_concat]
    constructor
    · rintro (⟨operation, h, huse⟩ | ⟨huse, hok⟩)
      · exact ⟨operation, Or.inl h, huse⟩
      · exact ⟨last, Or.inr ⟨rfl, hok⟩, huse⟩
    · rintro ⟨operation, h | ⟨rfl, hok⟩, huse⟩
      · exact Or.inl ⟨operation, h, huse⟩
      · exact Or.inr ⟨huse, hok⟩

/-- A parameter is negated if one of the operations that succeeded has negated it. -/
theorem negated_iff_succeeds {history : List Operation} {param : Param}
    (h : param ∈ (ofHistory history).params) :
    param.negated = true ↔
      ∃ capacity, Succeeds history (.list param.name capacity true) := by
  rw [(ofHistory_eq history).1] at h
  have hany : param.negated = (accepted history).any fun use =>
      use.name == param.name && use.negated :=
    (congrArg Param.negated (name_of_mem_ofUses h).2).symm
  rw [hany, List.any_eq_true]
  constructor
  · rintro ⟨use, huse, hnegated⟩
    obtain ⟨hname, hnegated⟩ := Bool.and_eq_true_iff.mp hnegated
    obtain ⟨operation, hsucceeds, rfl⟩ := mem_accepted.mp huse
    cases operation with
    | scalar name => cases hnegated
    | list name capacity negated =>
      obtain rfl : name = param.name := beq_iff_eq.mp hname
      obtain rfl : negated = true := hnegated
      exact ⟨capacity, hsucceeds⟩
  · rintro ⟨capacity, hsucceeds⟩
    exact ⟨_, mem_accepted.mpr ⟨_, hsucceeds, rfl⟩,
      Bool.and_eq_true_iff.mpr ⟨beq_self_eq_true _, rfl⟩⟩

/-- An operation that succeeded is of the kind of its parameter. -/
theorem exists_param_of_succeeds {history : List Operation} {operation : Operation}
    (h : Succeeds history operation) :
    ∃ param ∈ (ofHistory history).params,
      param.name = operation.use.name ∧ param.kind = operation.use.kind := by
  have huse := mem_accepted.mpr ⟨operation, h, rfl⟩
  obtain ⟨heq, huniform⟩ := ofHistory_eq history
  rw [heq]
  exact ⟨_, merge_mem_ofUses huse, rfl, huniform _ huse⟩

/-- **Layouts after any operations** are consistent. The parameters stand in the order in which
their names first occur in an operation, each is of the kind of the operations on it that succeeded,
and it is negated exactly if one of these was. -/
theorem consistent_ofHistory (history : List Operation) :
    (ofHistory history).Consistent ∧
      (ofHistory history).params.map (·.name) = (history.map (·.use.name)).eraseDups ∧
      (∀ operation, Succeeds history operation → ∃ param ∈ (ofHistory history).params,
        param.name = operation.use.name ∧ param.kind = operation.use.kind) ∧
      ∀ param ∈ (ofHistory history).params, (param.negated = true ↔
        ∃ capacity, Succeeds history (.list param.name capacity true)) := by
  obtain ⟨heq, huniform⟩ := ofHistory_eq history
  refine ⟨heq ▸ consistent_ofUses huniform, ?_, fun _ => exists_param_of_succeeds,
    fun _ => negated_iff_succeeds⟩
  rw [heq, names_ofUses, eraseDups_names_accepted]

end Layout

end NamedSql
