import NamedSql.Proofs.Seam

/-! # What expansions look like

Expansions piece by piece: a list is written as its first element and the rest
(`intercalate_replicate_succ`, `alternatives_succ`). Whatever is written for a reference ends in a
placeholder, or in a placeholder and a parenthesis, so it seals the text behind the cursor. A list of
capacity `n` is written with `n` placeholders (`count_group`, `count_alternatives`). -/

namespace NamedSql

namespace Expansion

theorem intercalate_replicate_succ (sep x : Text) (n : Nat) :
    sep.intercalate (List.replicate (n + 2) x) =
      x ++ (sep ++ sep.intercalate (List.replicate (n + 1) x)) := by
  rw [List.replicate_succ, List.replicate_succ, List.intercalate_cons_cons, ← List.replicate_succ]
  simp

theorem mem_of_mem_intercalate_replicate {sep x : Text} {c : Char} :
    ∀ {n : Nat}, c ∈ sep.intercalate (List.replicate n x) → c ∈ sep ∨ c ∈ x
  | 0, h => by simp at h
  | 1, h => by
    rw [List.replicate_one, List.intercalate_singleton] at h
    exact Or.inr h
  | n + 2, h => by
    rw [intercalate_replicate_succ, List.mem_append, List.mem_append] at h
    rcases h with h | h | h
    · exact Or.inr h
    · exact Or.inl h
    · exact mem_of_mem_intercalate_replicate h

/-- The words between a field and its pattern. -/
def operator (negated : Bool) : Text :=
  if negated then " NOT LIKE ".toList else " LIKE ".toList

/-- The word between two comparisons. -/
def joiner (negated : Bool) : Text := if negated then " AND ".toList else " OR ".toList

theorem comparison_eq (field : Text) (negated : Bool) :
    comparison field negated = field ++ (operator negated ++ single) :=
  List.append_assoc _ _ _

theorem alternatives_one (field : Text) (negated : Bool) :
    alternatives field 1 negated = comparison field negated := by
  simp [alternatives]

theorem alternatives_succ (field : Text) (n : Nat) (negated : Bool) :
    alternatives field (n + 2) negated =
      comparison field negated ++ (joiner negated ++ alternatives field (n + 1) negated) :=
  intercalate_replicate_succ _ _ n

theorem exists_intercalate_eq_append (sep x : Text) {n : Nat} (hn : 0 < n) :
    ∃ t, sep.intercalate (List.replicate n x) = t ++ x := by
  obtain ⟨n, rfl⟩ := Nat.exists_eq_succ_of_ne_zero hn.ne'
  induction n with
  | zero => exact ⟨[], by simp⟩
  | succ n ih =>
    obtain ⟨t, ht⟩ := ih (Nat.succ_pos n)
    exact ⟨x ++ (sep ++ t), by rw [intercalate_replicate_succ, ht]; simp⟩

end Expansion

namespace Dialect

theorem capacityOf_pos {dialect : Dialect} {capacities : Dict Nat} {name : Text} {n : Nat}
    (h : dialect.capacityOf capacities name = .ok n) : 0 < n := by
  unfold capacityOf at h
  split at h
  · rw [← Except.ok.inj h]; exact dialect.capacity_pos
  · cases h
  · rw [← Except.ok.inj h]; exact Nat.succ_pos _

end Dialect

namespace Expansion

open Context (SealedBy sealedBy_append)

theorem sealedBy_single (b : Text) : SealedBy placeholder (single.reverse ++ b) :=
  sealedBy_append (s := []) (fun _ h => absurd h List.not_mem_nil) inWord_placeholder b

theorem sealedBy_group {n : Nat} (hn : 0 < n) (b : Text) :
    SealedBy placeholder ((group n).reverse ++ b) := by
  obtain ⟨t, ht⟩ := exists_intercalate_eq_append ", ".toList single hn
  have heq : (group n).reverse ++ b = [')'] ++ placeholder :: (t.reverse ++ '(' :: b) := by
    rw [group, ht]
    simp [single]
  rw [heq]
  refine sealedBy_append ?_ inWord_placeholder _
  intro c hc
  rw [List.mem_singleton.mp hc]
  decide +kernel

theorem sealedBy_alternatives (field : Text) {n : Nat} (negated : Bool) (hn : 0 < n) (b : Text) :
    SealedBy placeholder ((alternatives field n negated).reverse ++ b) := by
  obtain ⟨t, ht⟩ := exists_intercalate_eq_append (joiner negated) (comparison field negated) hn
  obtain ⟨u, hu⟩ : ∃ u, comparison field negated = u ++ single := ⟨_, rfl⟩
  have heq : (alternatives field n negated).reverse ++ b =
      [] ++ placeholder :: ((t ++ u).reverse ++ b) := by
    rw [alternatives, ← joiner, ht, hu]
    simp [single]
  rw [heq]
  exact sealedBy_append (fun _ h => absurd h List.not_mem_nil) inWord_placeholder _

/-! ### Placeholders in expansions -/

theorem not_mem_operator_joiner (negated : Bool) :
    placeholder ∉ operator negated ∧ placeholder ∉ joiner negated := by
  cases negated <;> decide +kernel

theorem count_append_single {lead : Text} (h : placeholder ∉ lead) :
    (lead ++ single).count placeholder = 1 := by
  rw [List.count_append, List.count_eq_zero.mpr h]
  rfl

theorem count_intercalate {sep lead : Text} (hsep : placeholder ∉ sep) (hlead : placeholder ∉ lead)
    (n : Nat) : (sep.intercalate (List.replicate n (lead ++ single))).count placeholder = n := by
  have hone := count_append_single hlead
  induction n with
  | zero => rfl
  | succ n ih =>
    cases n with
    | zero => rw [List.replicate_one, List.intercalate_singleton, hone]
    | succ n =>
      rw [intercalate_replicate_succ, List.count_append, hone, List.count_append, ih,
        List.count_eq_zero.mpr hsep]
      omega

theorem not_mem_separator : placeholder ∉ ", ".toList := by decide +kernel

theorem group_eq (n : Nat) :
    group n = ['('] ++ (", ".toList.intercalate (List.replicate n ([] ++ single)) ++ [')']) :=
  List.append_assoc ..

theorem count_group (n : Nat) : (group n).count placeholder = n := by
  rw [group_eq, List.count_append, List.count_append,
    count_intercalate not_mem_separator List.not_mem_nil]
  exact Nat.zero_add n

section

variable {field : Text} (hfield : placeholder ∉ field) (negated : Bool)
include hfield

theorem not_mem_append_operator : placeholder ∉ field ++ operator negated := by
  rw [List.mem_append, not_or]
  exact ⟨hfield, (not_mem_operator_joiner negated).1⟩

theorem count_alternatives (n : Nat) : (alternatives field n negated).count placeholder = n :=
  count_intercalate (not_mem_operator_joiner negated).2 (not_mem_append_operator hfield negated) n

end

end Expansion

end NamedSql
