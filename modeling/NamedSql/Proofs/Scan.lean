import NamedSql.Proofs.Seam
import NamedSql.Proofs.Search

/-! # Texts without references

Whether a marker starts a reference is a matter of its two neighbours: none of them is a marker, and
the one after it may stand in a name (`Isolated`). So a text has no reference if no marker in it is
isolated (`first?_eq_none_iff`), and what a text does to a text that it is appended to is decided
where they meet (`first?_append_eq_none`). -/

namespace NamedSql

namespace Reference

/-- A marker between the two texts starts a reference. -/
def Isolated (marker : Char) (before after : Text) : Prop :=
  before.getLast? ≠ some marker ∧ after.head? ≠ some marker ∧ ∃ c ∈ after.head?, isWord c = true

theorem takeWhile_isWord_ne_nil_iff {after : Text} :
    after.takeWhile isWord ≠ [] ↔ ∃ c ∈ after.head?, isWord c = true := by
  cases after with
  | nil => simp
  | cons c after => by_cases h : isWord c = true <;> simp [h]

theorem firstAfter?_cons_eq_none_iff {marker c : Char} {afterMarker : Bool} {rest : Text} :
    firstAfter? marker afterMarker (c :: rest) = none ↔
      ¬(c = marker ∧ afterMarker = false ∧ rest.head? ≠ some marker ∧
        ∃ d ∈ rest.head?, isWord d = true) ∧ firstAfter? marker (c == marker) rest = none := by
  rw [firstAfter?, ← takeWhile_isWord_ne_nil_iff]
  split_ifs with h
  · simp [h]
  · simp only [Option.map_eq_none_iff, not_false_eq_true, h, true_and]

/-- The scan sees the last marker in front of the text. -/
theorem firstAfter?_eq_none_iff {marker : Char} {before text : Text} {afterMarker : Bool}
    (hb : afterMarker = true ↔ before.getLast? = some marker) :
    firstAfter? marker afterMarker text = none ↔
      ∀ a r, text = a ++ marker :: r → ¬Isolated marker (before ++ a) r := by
  induction text generalizing before afterMarker with
  | nil => simp [firstAfter?]
  | cons c rest ih =>
    have hc : (c == marker) = true ↔ (before ++ [c]).getLast? = some marker := by simp
    rw [firstAfter?_cons_eq_none_iff, ih hc]
    constructor
    · rintro ⟨h1, h2⟩ a r heq
      rcases a with _ | ⟨d, a⟩
      · obtain ⟨rfl, rfl⟩ := List.cons.inj heq
        rintro ⟨h3, h4, h5⟩
        refine h1 ⟨rfl, ?_, h4, h5⟩
        rw [List.append_nil, ne_eq, ← hb] at h3
        simpa using h3
      · obtain ⟨rfl, rfl⟩ := List.cons.inj heq
        have := h2 a r rfl
        rwa [List.append_assoc] at this
    · intro h
      refine ⟨?_, fun a r heq => ?_⟩
      · rintro ⟨rfl, h3, h4, h5⟩
        refine h [] rest rfl ⟨?_, h4, h5⟩
        rw [List.append_nil, ne_eq, ← hb, h3]
        simp
      · have := h (c :: a) r (by rw [heq]; rfl)
        rwa [List.append_assoc]

theorem first?_eq_none_iff {marker : Char} {text : Text} :
    first? marker text = none ↔ ∀ a r, text = a ++ marker :: r → ¬Isolated marker a r := by
  rw [first?_eq_firstAfter?]
  exact @firstAfter?_eq_none_iff marker [] text false (by simp)

/-! ### Parts of a text without references -/

section

variable {marker : Char} {s t : Text}

theorem first?_eq_none_of_not_mem (h : marker ∉ t) : first? marker t = none := by
  rw [first?_eq_none_iff]
  rintro a r rfl
  simp at h

theorem first?_eq_none_of_not_isWord (h : ∀ c ∈ t, isWord c = false) :
    first? marker t = none := by
  rw [first?_eq_none_iff]
  rintro a r rfl ⟨-, -, c, hc, hw⟩
  have hmem : c ∈ r := List.mem_of_mem_head? hc
  rw [h c (by simp [hmem])] at hw
  exact absurd hw (by simp)

theorem first?_left_eq_none (h : first? marker (s ++ t) = none) : first? marker s = none := by
  rw [first?_eq_none_iff] at h ⊢
  rintro a r rfl ⟨h1, h2, c, hc, hw⟩
  have hr : (r ++ t).head? = r.head? := by
    rw [List.head?_append, hc]
    rfl
  refine h a (r ++ t) (by simp) ⟨h1, ?_, c, ?_, hw⟩
  · rw [hr]; exact h2
  · rw [hr]; exact hc

theorem first?_right_eq_none (h : first? marker (s ++ t) = none) (hs : s.getLast? ≠ some marker) :
    first? marker t = none := by
  rw [first?_eq_none_iff] at h ⊢
  rintro a r rfl ⟨h1, h2⟩
  refine h (s ++ a) r (by simp) ⟨?_, h2⟩
  rw [List.getLast?_append]
  cases ha : a.getLast? with
  | none => simpa using hs
  | some c => rw [ha] at h1; simpa using h1

/-- **The seam**: where a text that ends in a marker meets one that begins with a character of
names, a reference may start, and nowhere else. -/
theorem first?_append_eq_none (hs : first? marker s = none) (ht : first? marker t = none)
    (hseam : s.getLast? = some marker → ∀ c ∈ t.head?, isWord c = false) :
    first? marker (s ++ t) = none := by
  rw [first?_eq_none_iff] at hs ht ⊢
  rintro a r heq ⟨h1, h2, c, hc, hw⟩
  rcases List.append_eq_append_iff.mp heq with ⟨a', rfl, ht'⟩ | ⟨s', rfl, hr⟩
  · -- the marker lies in `t`
    refine ht a' r ht' ⟨?_, h2, c, hc, hw⟩
    rw [List.getLast?_append] at h1
    intro h
    rw [h] at h1
    exact h1 rfl
  · rcases s' with _ | ⟨d, s'⟩
    · -- the marker begins `t`
      refine ht [] r (by simpa using hr.symm) ⟨by simp, h2, c, hc, hw⟩
    · obtain ⟨rfl, rfl⟩ := List.cons.inj hr
      rcases s' with _ | ⟨e, s'⟩
      · -- the marker ends `s`
        have := hseam (by simp) c hc
        rw [this] at hw
        exact absurd hw (by simp)
      · exact hs a (e :: s') rfl ⟨h1, h2, c, hc, hw⟩

/-- Nothing that begins with no character of names makes a reference of a text. -/
theorem first?_append_of_head (hs : first? marker s = none) (ht : first? marker t = none)
    (hhead : ∀ c ∈ t.head?, isWord c = false) : first? marker (s ++ t) = none :=
  first?_append_eq_none hs ht fun _ => hhead

end

/-! ### The text around a reference -/

theorem firstAfter?_lead {marker : Char} {afterMarker : Bool} {text : Text} {r : Reference}
    (h : firstAfter? marker afterMarker text = some r) :
    firstAfter? marker afterMarker r.lead = none ∧ r.lead.getLast? ≠ some marker ∧
      (r.lead = [] → afterMarker = false) := by
  induction text generalizing afterMarker r with
  | nil => simp [firstAfter?] at h
  | cons c rest ih =>
    rw [firstAfter?] at h
    split at h
    · rename_i hc
      obtain rfl := Option.some.inj h
      exact ⟨rfl, by simp, fun _ => hc.2.1⟩
    · rename_i hc
      obtain ⟨s, hs, rfl⟩ := Option.map_eq_some_iff.mp h
      obtain ⟨h1, h2, h3⟩ := ih hs
      refine ⟨?_, ?_, by simp [cons]⟩
      · rw [cons, firstAfter?_cons_eq_none_iff]
        refine ⟨?_, h1⟩
        rintro ⟨h4, h5, h6, d, hd, hw⟩
        have hhead : rest.head? = s.lead.head? := by
          rw [firstAfter?_eq_some hs, List.head?_append, hd]
          rfl
        exact hc ⟨h4, h5, by rw [hhead]; exact h6,
          takeWhile_isWord_ne_nil_iff.mpr ⟨d, by rw [hhead]; exact hd, hw⟩⟩
      · rw [cons]
        dsimp only
        cases hlead : s.lead with
        | nil => simpa using h3 hlead
        | cons d l =>
          rw [hlead] at h2
          simpa [List.getLast?_cons_cons] using h2

/-- In front of the first reference there is none. -/
theorem first?_lead {marker : Char} {text : Text} {r : Reference}
    (h : first? marker text = some r) : first? marker r.lead = none := by
  rw [first?_eq_firstAfter?] at h ⊢
  exact (firstAfter?_lead h).1

/-- No marker stands right before the first reference. -/
theorem getLast?_lead_ne {marker : Char} {text : Text} {r : Reference}
    (h : first? marker text = some r) : r.lead.getLast? ≠ some marker := by
  rw [first?_eq_firstAfter?] at h
  exact (firstAfter?_lead h).2.1

/-- No name goes on after its reference. -/
theorem not_isWord_head_tail {marker : Char} {text : Text} {r : Reference}
    (h : first? marker text = some r) : ∀ c ∈ r.tail.head?, isWord c = false := by
  intro c hc
  have hname := name_eq_takeWhile h
  obtain ⟨rest, hrest⟩ : ∃ rest, r.tail = c :: rest := List.head?_eq_some_iff.mp hc
  have hall : ∀ d ∈ r.name, isWord d = true := by
    intro d hd
    rw [hname] at hd
    exact List.mem_takeWhile_imp hd
  by_contra hw
  rw [List.takeWhile_append_of_pos hall, hrest,
    List.takeWhile_cons_of_pos (by simpa using hw)] at hname
  have := congrArg List.length hname
  simp at this

end Reference

end NamedSql
