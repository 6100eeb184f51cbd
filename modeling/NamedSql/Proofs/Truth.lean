import Mathlib.Data.List.Basic
import Mathlib.Tactic.SplitIfs

/-! # The truth of conditions

A condition of a query holds, fails, or is unknown, as a comparison with NULL is. Disjunctions and
conjunctions of such conditions are those of Kleene: a disjunction holds if one of its members does,
and fails only if all of them do. So it is told by which of the three occur among its members, in
whatever order and however often (`any_eq`), and members that are unknown may keep it from failing
but not from holding. -/

namespace NamedSql

/-- The truth of a condition. -/
inductive Truth where
  /-- It holds. -/
  | holds
  /-- It does not hold. -/
  | fails
  /-- It cannot be told. -/
  | unknown
  deriving DecidableEq

namespace Truth

/-- The negation of a condition. -/
def not : Truth → Truth
  | holds => fails
  | fails => holds
  | unknown => unknown

/-- The disjunction of two conditions. -/
def or : Truth → Truth → Truth
  | holds, _ => holds
  | fails, other => other
  | unknown, holds => holds
  | unknown, _ => unknown

/-- The conjunction of two conditions. -/
def and : Truth → Truth → Truth
  | fails, _ => fails
  | holds, other => other
  | unknown, fails => fails
  | unknown, _ => unknown

/-- The disjunction of some conditions. -/
def any (l : List Truth) : Truth := l.foldr or fails

/-- The conjunction of some conditions. -/
def all (l : List Truth) : Truth := l.foldr and holds

theorem any_cons (t : Truth) (l : List Truth) : any (t :: l) = t.or (any l) := rfl

theorem all_cons (t : Truth) (l : List Truth) : all (t :: l) = t.and (all l) := rfl

theorem not_or (s t : Truth) : (s.or t).not = s.not.and t.not := by
  cases s <;> cases t <;> rfl

/-- The conjunction of negations is the negation of the disjunction. -/
theorem all_map_not (l : List Truth) : all (l.map not) = (any l).not := by
  induction l with
  | nil => rfl
  | cons t l ih => rw [List.map_cons, all_cons, ih, any_cons, not_or]

/-- A disjunction is told by which truths occur in it. -/
theorem any_eq (l : List Truth) :
    any l = if holds ∈ l then holds else if unknown ∈ l then unknown else fails := by
  induction l with
  | nil => rfl
  | cons t l ih =>
    rw [any_cons, ih]
    cases t with
    | holds => rw [if_pos List.mem_cons_self, or]
    | fails => simp [or]
    | unknown =>
      have hiff : holds ∈ unknown :: l ↔ holds ∈ l := by simp
      rw [if_congr hiff rfl rfl, if_pos List.mem_cons_self]
      split_ifs <;> rfl

theorem any_eq_holds_iff {l : List Truth} : any l = holds ↔ holds ∈ l := by
  rw [any_eq]
  split_ifs with h <;> simp [h]

theorem any_congr {l m : List Truth} (h : ∀ t, t ∈ l ↔ t ∈ m) : any l = any m := by
  rw [any_eq, any_eq, if_congr (h holds) rfl (if_congr (h unknown) rfl rfl)]

/-- Unknown members do not change whether a disjunction holds. -/
theorem any_append_unknown_eq_holds_iff (l : List Truth) (n : Nat) :
    any (l ++ List.replicate n unknown) = holds ↔ any l = holds := by
  rw [any_eq_holds_iff, any_eq_holds_iff, List.mem_append, or_iff_left]
  intro h
  cases List.eq_of_mem_replicate h

/-- A member that is repeated does not change a disjunction. -/
theorem any_append_replicate {l : List Truth} {t : Truth} (h : t ∈ l) (n : Nat) :
    any (l ++ List.replicate n t) = any l := by
  refine any_congr fun s => ?_
  rw [List.mem_append, or_iff_left_of_imp]
  intro hs
  rwa [List.eq_of_mem_replicate hs]

end Truth

end NamedSql
