import NamedSql.Proofs.Field
import NamedSql.Proofs.Scan
import NamedSql.Proofs.Steps

/-! # Compiled SQL has no references

The text behind the cursor of a draft never holds a reference, and the text ahead does not begin in
a way that could make one of its last character (`Settled`). A step keeps this: an expansion begins
with a character that no name has, or with the field that was there before, and what is repeated
was free of references (`settled_of_step?`). So nothing is left to expand in the SQL of a plan, and
compiling it changes nothing (`compile_sql`). -/

namespace NamedSql

open Reference

namespace Expansion

theorem not_mem_operator {marker : Char} (hm : Settings.canMark marker = true) (negated : Bool) :
    marker ∉ operator negated ++ single ∧ marker ∉ joiner negated := by
  have hall : (operator negated ++ single ++ joiner negated).all
      (fun c => !Settings.canMark c) = true := by
    cases negated <;> decide +kernel
  have hnone : marker ∉ operator negated ++ single ++ joiner negated := by
    intro h
    have := List.all_eq_true.mp hall marker h
    rw [hm] at this
    exact absurd this (by simp)
  exact ⟨fun h => hnone (List.mem_append_left _ h), fun h => hnone (List.mem_append_right _ h)⟩

theorem not_isWord_of_all {t : Text} (h : t.all (fun c => !isWord c) = true) :
    ∀ c ∈ t, isWord c = false := by
  intro c hc
  simpa using List.all_eq_true.mp h c hc

theorem not_isWord_of_mem_single : ∀ c ∈ single, isWord c = false :=
  not_isWord_of_all (by decide +kernel)

/-- What follows a field or a comparison begins with a space. -/
theorem not_isWord_head (negated : Bool) :
    (∀ c ∈ (operator negated ++ single).head?, isWord c = false) ∧
      ∀ c ∈ (joiner negated).head?, isWord c = false := by
  have hspace : isWord ' ' = false := by decide +kernel
  constructor
  · intro c hc
    have heq : ' ' = c := by cases negated <;> exact Option.some.inj hc
    rw [← heq, hspace]
  · intro c hc
    have heq : ' ' = c := by cases negated <;> exact Option.some.inj hc
    rw [← heq, hspace]

theorem not_isWord_of_mem_group {n : Nat} {c : Char} (h : c ∈ group n) : isWord c = false := by
  have hall : (['('] ++ (", ".toList ++ (single ++ [')']))).all (fun c => !isWord c) = true := by
    decide +kernel
  refine not_isWord_of_all hall c ?_
  simp only [group, List.mem_append] at h ⊢
  rcases h with (h | h) | h
  · exact Or.inl h
  · rcases mem_of_mem_intercalate_replicate h with h | h
    · exact Or.inr (Or.inl h)
    · exact Or.inr (Or.inr (Or.inl h))
  · exact Or.inr (Or.inr (Or.inr h))

/-- A comparison makes no reference of a text that its field makes none of. -/
theorem first?_append_comparison {marker : Char} (hm : Settings.canMark marker = true)
    {s field : Text} (hs : first? marker (s ++ field) = none) (negated : Bool) :
    first? marker (s ++ comparison field negated) = none := by
  rw [comparison_eq, ← List.append_assoc]
  exact first?_append_of_head hs (first?_eq_none_of_not_mem (not_mem_operator hm negated).1)
    (not_isWord_head negated).1

/-- The comparisons make no reference of a text that their field makes none of. -/
theorem first?_append_alternatives {marker : Char} (hm : Settings.canMark marker = true)
    {field : Text} (hfield : first? marker field = none) (negated : Bool) :
    ∀ (n : Nat) {s : Text}, first? marker (s ++ field) = none →
      first? marker (s ++ alternatives field (n + 1) negated) = none
  | 0, s, hs => by
    rw [alternatives_one]
    exact first?_append_comparison hm hs negated
  | n + 1, s, hs => by
    obtain ⟨c, hc⟩ : ∃ c, (joiner negated).getLast? = some c := by
      cases negated <;> exact ⟨_, rfl⟩
    have h1 : first? marker (s ++ comparison field negated ++ joiner negated) = none :=
      first?_append_of_head (first?_append_comparison hm hs negated)
        (first?_eq_none_of_not_mem (not_mem_operator hm negated).2) (not_isWord_head negated).2
    have h2 : first? marker (s ++ comparison field negated ++ joiner negated ++ field) = none := by
      refine first?_append_eq_none h1 hfield fun h => absurd ?_ (not_mem_operator hm negated).2
      rw [List.getLast?_append, hc] at h
      exact List.mem_of_getLast? (hc.trans h)
    rw [alternatives_succ, ← List.append_assoc, ← List.append_assoc]
    exact first?_append_alternatives hm hfield negated n h2

end Expansion

/-! ### Drafts -/

/-- The text behind the cursor holds no reference, and its last character begins none. -/
structure Settled (marker : Char) (draft : Draft) : Prop where
  clean : first? marker draft.behind.reverse = none
  closed : draft.behind ≠ [] → ∀ c ∈ draft.ahead.head?, isWord c = false

variable {dialect : Dialect} {capacities : Dict Nat}

theorem settled_ofText (marker : Char) (text : Text) : Settled marker (.ofText text) :=
  ⟨first?_of_none rfl, fun h => absurd rfl h⟩

/-- Up to the next reference there is none. -/
theorem Settled.first?_append_lead {marker : Char} {draft : Draft} (h : Settled marker draft)
    {r : Reference} (hr : first? marker draft.ahead = some r) :
    first? marker (draft.behind.reverse ++ r.lead) = none := by
  refine first?_append_eq_none h.clean (first?_lead hr) fun hlast c hc => ?_
  refine h.closed ?_ c ?_
  · intro hnil
    rw [hnil] at hlast
    simp at hlast
  · rw [eq_of_first? hr, List.head?_append, hc]
    rfl

/-- A field that is repeated holds no reference of its own. -/
theorem first?_field_eq_none {text front field : Text} {negated : Bool}
    (hclean : first? dialect.marker text = none)
    (hcontext : Context.ofBehind text.reverse = .likeAny front field negated) :
    first? dialect.marker (front.reverse ++ field) = none ∧
      first? dialect.marker field = none := by
  obtain ⟨gap, c, heq, -, hfield, hfront⟩ := Context.exists_of_ofBehind_eq_likeAny hcontext
  have htext : text = front.reverse ++ field ++ c :: gap.reverse := by
    rw [← List.reverse_reverse text, heq]
    simp
  rw [htext] at hclean
  have hboth := first?_left_eq_none hclean
  refine ⟨hboth, ?_⟩
  by_cases hp : dialect.marker = '('
  · -- a parenthesis ends the word, so there is none in the field
    refine first?_eq_none_of_not_mem fun hmem => ?_
    have := hfield _ hmem
    rw [hp] at this
    exact absurd this (by decide)
  · refine first?_right_eq_none hboth ?_
    rw [List.getLast?_reverse]
    intro h
    have := hfront _ h
    rw [inWord_of_canMark dialect.canMark_marker hp] at this
    exact absurd this (by simp)

/-- A step leaves no reference behind the cursor. -/
theorem settled_of_step? {draft next : Draft} {visit : Visit} (h : Settled dialect.marker draft)
    (hstep : dialect.step? capacities draft = some (visit, .ok next)) :
    Settled dialect.marker next := by
  obtain ⟨r, hr, htail, hexp⟩ := Dialect.exists_of_step? hstep
  have hlead := h.first?_append_lead hr
  refine ⟨?_, fun _ => by rw [htail]; exact not_isWord_head_tail hr⟩
  have hrev : r.lead.reverse ++ draft.behind = (draft.behind.reverse ++ r.lead).reverse := by simp
  rw [hrev] at hexp
  generalize draft.behind.reverse ++ r.lead = text at hlead hexp
  generalize hcontext : Context.ofBehind text.reverse = context at hexp
  generalize next.behind = behind at hexp ⊢
  generalize next.layout = layout at hexp
  cases hexp with
  | scalar =>
    have hword := Expansion.not_isWord_of_mem_single
    rw [List.reverse_append, List.reverse_reverse, List.reverse_reverse]
    exact first?_append_of_head hlead (first?_eq_none_of_not_isWord hword)
      fun c hc => hword c (List.mem_of_mem_head? hc)
  | inList =>
    rw [List.reverse_append, List.reverse_reverse, List.reverse_reverse]
    exact first?_append_of_head hlead
      (first?_eq_none_of_not_isWord fun c => Expansion.not_isWord_of_mem_group)
      fun c hc => Expansion.not_isWord_of_mem_group (List.mem_of_mem_head? hc)
  | @likeAny front field negated capacity _ _ _ hcap =>
    obtain ⟨n, rfl⟩ := Nat.exists_eq_succ_of_ne_zero (Dialect.capacityOf_pos hcap).ne'
    obtain ⟨h1, h2⟩ := first?_field_eq_none hlead hcontext
    rw [List.reverse_append, List.reverse_reverse]
    exact Expansion.first?_append_alternatives dialect.canMark_marker h2 negated n h1

theorem settled_of_reaches {first last : Draft} (h : Settled dialect.marker first)
    (hreach : dialect.Reaches capacities first last) : Settled dialect.marker last := by
  induction hreach with
  | refl => exact h
  | step _ hstep ih => exact settled_of_step? ih hstep

/-- The SQL of a plan holds no reference. -/
theorem first?_sql {text : Text} {plan : Plan} (h : dialect.compile text capacities = .ok plan) :
    first? dialect.marker plan.sql = none := by
  obtain ⟨last, hlast, rfl⟩ := Dialect.exists_of_compile h
  obtain ⟨hreach, hahead⟩ := Dialect.reaches_of_run hlast
  have hsettled := settled_of_reaches (settled_ofText _ _) hreach
  refine first?_append_eq_none hsettled.clean hahead fun h => hsettled.closed ?_
  intro hnil
  rw [hnil] at h
  simp at h

/-- A text without references is its own plan. -/
theorem compile_of_first?_eq_none {text : Text} (h : first? dialect.marker text = none) :
    dialect.compile text .empty = .ok ⟨text, text, .empty⟩ := by
  have hrun := Dialect.run_of_step?_eq_none
    (@Dialect.step?_of_none dialect .empty (.ofText text) h)
  rw [Dialect.compile, hrun]
  rfl

/-- A text without references is scanned to its end. -/
theorem spans?_of_first?_eq_none {marker : Char} {text : Text} (h : first? marker text = none) :
    spans? marker text 0 = some [] := by
  rw [spans?_eq, if_neg (by omega), Text.dropBytes_zero]
  exact congrArg some (spansFrom_of_none h _)

/-- **Compiled SQL is a fixed point**: there is no reference in it, and compiled once more, with the
same marker and default capacity, it stays as it is, without parameters and placeholders. -/
theorem compile_sql (text : Text) (plan : Plan)
    (h : dialect.compile text capacities = .ok plan) :
    spans? dialect.marker plan.sql 0 = some [] ∧
      ∃ again, dialect.compile plan.sql .empty = .ok again ∧ again.sql = plan.sql ∧
        again.params = [] ∧ again.placeholders = 0 ∧ again.entries = [] :=
  ⟨spans?_of_first?_eq_none (first?_sql h), _, compile_of_first?_eq_none (first?_sql h),
    rfl, rfl, rfl, rfl⟩

/-- With the parenthesis as marker, one that stands in a field and one that closes a group meet
letters and other markers, and none of them introduces a name. -/
theorem compile_sql_parenthesis :
    let dialect : Dialect := ⟨⟨')', 2⟩, by decide +kernel, by decide⟩
    let text := "a)) LIKE_ANY )p IN )x))y".toList
    let plan : Plan := ⟨text, "a)) LIKE ? OR a)) LIKE ? IN (?, ?)))y".toList,
      ⟨4, [⟨['p'], .list 2, false⟩, ⟨['x'], .list 2, false⟩],
        [("p__0".toList, [1]), ("p__1".toList, [2]), ("x__0".toList, [3]), ("x__1".toList, [4])]⟩⟩
    dialect.compile text .empty = .ok plan ∧ spans? dialect.marker plan.sql 0 = some [] := by
  intro dialect text plan
  have h : dialect.compile text .empty = .ok plan := by decide +kernel
  exact ⟨h, (compile_sql text plan h).1⟩

end NamedSql
