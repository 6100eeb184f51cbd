/-! # Range tables

A set of code points written as closed ranges in ascending order, as the Unicode property files
write them. `contains` stops at the first range that lies above the code point it looks for, which
is right because a table is ascending; `contains_iff` says that it decides membership in one of the
ranges. -/

namespace NamedSql

/-- Each range is non-empty, starts at `low` or above, and leaves a gap to the next one. -/
def ascendingFrom : Nat → List (Nat × Nat) → Bool
  | _, [] => true
  | low, (lo, hi) :: rest => decide (low ≤ lo) && decide (lo ≤ hi) && ascendingFrom (hi + 2) rest

/-- Closed ranges of code points, non-empty, in ascending order and apart. -/
structure RangeTable where
  /-- First and last code point of each range. -/
  ranges : List (Nat × Nat)
  /-- The ranges are in order. -/
  ascending : ascendingFrom 0 ranges = true := by decide +kernel

namespace RangeTable

/-- Membership in ascending ranges. -/
def inRanges : List (Nat × Nat) → Nat → Bool
  | [], _ => false
  | (lo, hi) :: rest, n => if n < lo then false else if n ≤ hi then true else inRanges rest n

/-- The code point lies in the table. -/
def contains (table : RangeTable) (n : Nat) : Bool := inRanges table.ranges n

theorem le_of_mem_of_ascendingFrom : ∀ {ranges : List (Nat × Nat)} {low : Nat},
    ascendingFrom low ranges = true → ∀ r ∈ ranges, low ≤ r.1
  | [], _, _, _, h => by simp at h
  | (lo, hi) :: rest, low, hasc, r, hr => by
    simp only [ascendingFrom, Bool.and_eq_true, decide_eq_true_eq] at hasc
    obtain ⟨⟨hlow, hle⟩, hrest⟩ := hasc
    rcases List.mem_cons.mp hr with rfl | hr
    · exact hlow
    · have := le_of_mem_of_ascendingFrom hrest r hr
      omega

theorem inRanges_iff : ∀ {ranges : List (Nat × Nat)} {low : Nat} (n : Nat),
    ascendingFrom low ranges = true → (inRanges ranges n = true ↔ ∃ r ∈ ranges, r.1 ≤ n ∧ n ≤ r.2)
  | [], _, _, _ => by simp [inRanges]
  | (lo, hi) :: rest, low, n, hasc => by
    simp only [ascendingFrom, Bool.and_eq_true, decide_eq_true_eq] at hasc
    obtain ⟨⟨hlow, hle⟩, hrest⟩ := hasc
    have ih := inRanges_iff n hrest
    have hbound := le_of_mem_of_ascendingFrom hrest
    by_cases h1 : n < lo
    · simp only [inRanges, h1, if_true, Bool.false_eq_true, false_iff]
      rintro ⟨r, hr, h2, h3⟩
      rcases List.mem_cons.mp hr with rfl | hr
      · exact absurd h2 (Nat.not_le.mpr h1)
      · have := hbound r hr
        omega
    · by_cases h2 : n ≤ hi
      · simp only [inRanges, h1, h2, if_false, if_true, true_iff]
        exact ⟨(lo, hi), List.mem_cons_self, Nat.not_lt.mp h1, h2⟩
      · simp only [inRanges, h1, h2, if_false, ih, List.mem_cons]
        constructor
        · rintro ⟨r, hr, h3⟩
          exact ⟨r, Or.inr hr, h3⟩
        · rintro ⟨r, rfl | hr, h3, h4⟩
          · exact absurd h4 h2
          · exact ⟨r, hr, h3, h4⟩

/-- A table contains the code points that lie in one of its ranges. -/
theorem contains_iff (table : RangeTable) (n : Nat) :
    table.contains n = true ↔ ∃ r ∈ table.ranges, r.1 ≤ n ∧ n ≤ r.2 :=
  inRanges_iff n table.ascending

end RangeTable

end NamedSql
