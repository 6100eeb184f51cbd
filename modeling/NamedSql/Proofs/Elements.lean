import NamedSql.Proofs.Ownership

/-! # Elements keep to themselves

The name of a list may end in digits and underscores, like a slot key itself. But the number of an
element is written after the last underscore, so name and number are read back from its key
(`readSlotKey_slotKey`), and different elements, of one list or of two, have different keys.

A plan therefore gives them different places, and a binding that writes to the places of one leaves
those of the other as they are (`elements_apart`). Only a scalar can come between them, one that is
called like an element (`Plan.Unambiguous`). -/

namespace NamedSql

/-- The places of two keys have nothing to do with each other. -/
structure Plan.Apart (plan : Plan) (key other : Text) : Prop where
  ne : key ≠ other
  /-- Both keys have places, and none in common. -/
  places : ∃ positions others, plan.positions key = .ok positions ∧
    plan.positions other = .ok others ∧ positions ≠ [] ∧ others ≠ [] ∧ positions.Disjoint others
  /-- A value that is written under the other key leaves the places of the key as they are. -/
  frame : ∀ row value next, plan.fill row (other, value) = .ok next →
    ∀ positions, plan.positions key = .ok positions →
      ∀ position ∈ positions, next[position - 1]? = row[position - 1]?

theorem slotKey_eq_iff {name name' : Text} {i j : Nat} :
    slotKey name i = slotKey name' j ↔ name = name' ∧ i = j := by
  refine ⟨eq_of_slotKey_eq, ?_⟩
  rintro ⟨rfl, rfl⟩
  rfl

theorem slotKey_mem_keys {param : Param} {capacity i : Nat} (hkind : param.kind = .list capacity)
    (hi : i < capacity) : slotKey param.name i ∈ param.keys :=
  Param.mem_keys.mpr (Or.inr ⟨capacity, hkind, i, hi, rfl⟩)

namespace Plan.MadeOf

variable {plan : Plan} {marker : Char} {splices : List Splice} {rest : Text}
  (h : plan.MadeOf marker splices rest)
include h

/-- A parameter is told by its name. -/
theorem eq_of_name_eq {a b : Param} (ha : a ∈ plan.params) (hb : b ∈ plan.params)
    (hname : a.name = b.name) : a = b := by
  rw [Plan.params, h.layout] at ha hb
  exact List.inj_on_of_nodup_map (Layout.nodup_names_ofUses _) ha hb hname

/-- Positions count from 1. -/
theorem pos_of_mem_positions {key : Text} {positions : List Nat}
    (hkey : plan.positions key = .ok positions) {position : Nat} (hmem : position ∈ positions) :
    0 < position := by
  obtain ⟨-, rfl⟩ := h.positions_eq_ok_iff.mp hkey
  obtain ⟨n, rfl, -⟩ := Layout.mem_positionsOf.mp hmem
  exact Nat.succ_pos n

/-- **Different keys** of parameters are apart. -/
theorem apart_of_ne {a b : Param} (ha : a ∈ plan.params) (hb : b ∈ plan.params) {key other : Text}
    (hkey : key ∈ a.keys) (hother : other ∈ b.keys) (hne : key ≠ other) :
    plan.Apart key other := by
  obtain ⟨positions, hpositions⟩ := h.exists_positions ha hkey
  obtain ⟨others, hothers⟩ := h.exists_positions hb hother
  have hdisjoint := h.disjoint_positions hne hpositions hothers
  refine ⟨hne, ⟨positions, others, hpositions, hothers, h.positions_ne_nil hpositions,
    h.positions_ne_nil hothers, hdisjoint⟩, fun row value next hfill found hfound p hp => ?_⟩
  obtain rfl : positions = found := Except.ok.inj (hpositions.symm.trans hfound)
  rw [Plan.fill, hothers] at hfill
  obtain rfl := Except.ok.inj hfill
  rw [getElem?_foldl_set, if_neg]
  rintro ⟨q, hq, heq⟩
  have hppos := h.pos_of_mem_positions hpositions hp
  have hqpos := h.pos_of_mem_positions hothers hq
  obtain rfl : q = p := by omega
  exact hdisjoint hp hq

end Plan.MadeOf

/-- **Elements keep to themselves.** A slot key tells the name of its list and the number of its
element, whatever the name ends in. So in a plan different elements of lists have different keys and
different places, and writing to the places of one does not touch those of the other. -/
theorem elements_apart :
    (∀ (name name' : Text) (i j : Nat), slotKey name i = slotKey name' j ↔ name = name' ∧ i = j) ∧
    ∀ (dialect : Dialect) (capacities : Dict Nat) (text : Text) (plan : Plan),
      dialect.compile text capacities = .ok plan →
        (plan.params.map (·.name)).Nodup ∧
        ∀ a ∈ plan.params, ∀ b ∈ plan.params, ∀ n m, a.kind = .list n → b.kind = .list m →
          ∀ i < n, ∀ j < m, a ≠ b ∨ i ≠ j → plan.Apart (slotKey a.name i) (slotKey b.name j) := by
  refine ⟨fun _ _ _ _ => slotKey_eq_iff, fun dialect capacities text plan hcompile => ?_⟩
  obtain ⟨-, splices, rest, h⟩ := exists_madeOf_of_compile hcompile
  refine ⟨?_, fun a ha b hb n m hn hm i hi j hj hne => ?_⟩
  · rw [Plan.params, h.layout]
    exact Layout.nodup_names_ofUses _
  · refine h.apart_of_ne ha hb (slotKey_mem_keys hn hi) (slotKey_mem_keys hm hj) fun heq => ?_
    obtain ⟨hname, rfl⟩ := slotKey_eq_iff.mp heq
    exact hne.elim (fun hab => hab (h.eq_of_name_eq ha hb hname)) fun hij => hij rfl

/-- A list is called like an element of another one, and its elements like elements of this one. -/
theorem elements_apart_suffix :
    let dialect : Dialect := ⟨⟨'¥', 2⟩, by decide +kernel, by decide⟩
    let text := "x IN ¥a OR y IN ¥a__1".toList
    let a : Param := ⟨['a'], .list 2, false⟩
    let b : Param := ⟨"a__1".toList, .list 2, false⟩
    let plan : Plan := ⟨text, "x IN (?, ?) OR y IN (?, ?)".toList,
      ⟨4, [a, b], [("a__0".toList, [1]), ("a__1".toList, [2]), ("a__1__0".toList, [3]),
        ("a__1__1".toList, [4])]⟩⟩
    dialect.compile text .empty = .ok plan ∧ slotKey a.name 1 = b.name ∧
      plan.Apart (slotKey a.name 1) (slotKey b.name 1) ∧
      plan.Apart (slotKey b.name 0) (slotKey b.name 1) := by
  intro dialect text a b plan
  have h : dialect.compile text .empty = .ok plan := by decide +kernel
  have ha : a ∈ plan.params := List.mem_cons_self
  have hb : b ∈ plan.params := List.mem_cons_of_mem _ List.mem_cons_self
  have hapart := (elements_apart.2 dialect .empty text plan h).2
  exact ⟨h, by decide +kernel,
    hapart a ha b hb 2 2 rfl rfl 1 (by decide) 1 (by decide) (Or.inl (by decide)),
    hapart b hb b hb 2 2 rfl rfl 0 (by decide) 1 (by decide) (Or.inr (by decide))⟩

end NamedSql
