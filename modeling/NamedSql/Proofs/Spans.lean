import Mathlib.Data.List.Sort
import NamedSql.Proofs.Scan

/-! # Where references stand

A reference stands at a marker that no marker comes before and that a name follows (`Span.Stands`),
which is a matter of one place of the text. A scan searches from reference to reference instead, and
each search resumes behind the name that the one before it has found (`spans?_eq_bind`).

Nothing is lost by this if the marker is no word character. An isolated marker is that of the first
reference or lies behind its name, where it is isolated in the rest of the text as well
(`isolated_iff_of_first?`); so the scan of a text finds the spans of all its isolated markers
(`mem_spansFrom_iff`) in the order in which they stand (`pairwise_spansFrom`), and there is only one
list of these (`spans?_zero_eq_some_iff`). -/

namespace NamedSql

namespace Reference

/-- A marker stands at the start of the span, no marker before it, and the name, the longest run of
word characters after the marker, is not empty and reaches to the end of the span. -/
def Span.Stands (marker : Char) (text : Text) (span : Span) : Prop :=
  ∃ before after, text = before ++ marker :: after ∧ before.getLast? ≠ some marker ∧
    span.name = after.takeWhile isWord ∧ span.name ≠ [] ∧ span.start = before.byteLength ∧
    span.stop = Text.byteLength (before ++ marker :: span.name)

/-- The one span starts and ends before the other one starts. -/
def Span.Before (a b : Span) : Prop := a.start < b.start ∧ a.stop ≤ b.start

instance : Std.Irrefl Span.Before := ⟨fun _ h => Nat.lt_irrefl _ h.1⟩

instance : Std.Antisymm Span.Before := ⟨fun _ _ h h' => absurd h.1 (Nat.lt_asymm h'.1)⟩

/-! ### Isolated markers -/

theorem isWord_of_mem_name {marker : Char} {text : Text} {r : Reference}
    (h : first? marker text = some r) {c : Char} (hc : c ∈ r.name) : isWord c = true := by
  rw [name_eq_takeWhile h] at hc
  exact List.mem_takeWhile_imp hc

section

variable {marker : Char} (hm : isWord marker = false)
include hm

theorem ne_marker_of_isWord {c : Char} (h : isWord c = true) : c ≠ marker := by
  rintro rfl
  rw [hm] at h
  cases h

/-- A name in front of the marker keeps it isolated. -/
theorem getLast?_append_name {front name : Text} (hname : ∀ c ∈ name, isWord c = true)
    (hne : name ≠ []) (b : Text) :
    (front ++ marker :: (name ++ b)).getLast? ≠ some marker ↔ b.getLast? ≠ some marker := by
  rw [← List.cons_append, ← List.append_assoc, List.getLast?_append]
  cases hb : b.getLast? with
  | some c => rfl
  | none =>
    have hlast : (front ++ marker :: name).getLast? = some (name.getLast hne) := by
      rw [List.getLast?_append, List.getLast?_cons_of_ne_nil hne, List.getLast?_eq_some_getLast hne]
      rfl
    have hword := ne_marker_of_isWord hm (hname _ (List.getLast_mem hne))
    rw [hlast]
    simpa using hword

theorem isolated_iff {before after : Text} :
    Isolated marker before after ↔
      before.getLast? ≠ some marker ∧ after.takeWhile isWord ≠ [] := by
  rw [Isolated, takeWhile_isWord_ne_nil_iff]
  refine and_congr_right fun _ => and_iff_right_of_imp ?_
  rintro ⟨c, hc, hw⟩ hhead
  rw [Option.mem_def, hhead] at hc
  exact ne_marker_of_isWord hm hw (Option.some.inj hc).symm

variable {text : Text} {r : Reference} (h : first? marker text = some r)
include h

theorem isolated_lead : Isolated marker r.lead (r.name ++ r.tail) := by
  rw [isolated_iff hm, ← name_eq_takeWhile h]
  exact ⟨getLast?_lead_ne h, name_ne_nil h⟩

/-- **One reference**: an isolated marker is that of the first reference, or an isolated marker of
the text behind it. -/
theorem isolated_iff_of_first? {before after : Text} :
    text = before ++ marker :: after ∧ Isolated marker before after ↔
      (before = r.lead ∧ after = r.name ++ r.tail) ∨
        ∃ b, before = r.lead ++ marker :: (r.name ++ b) ∧ r.tail = b ++ marker :: after ∧
          Isolated marker b after := by
  have hword : ∀ c ∈ r.name, isWord c = true := fun c => isWord_of_mem_name h
  have hlast : ∀ b, Isolated marker (r.lead ++ marker :: (r.name ++ b)) after ↔
      Isolated marker b after := fun b => by
    rw [isolated_iff hm, isolated_iff hm, getLast?_append_name hm hword (name_ne_nil h)]
  constructor
  · rintro ⟨heq, hisolated⟩
    rw [eq_of_first? h] at heq
    rcases List.append_eq_append_iff.mp heq with ⟨a, rfl, ha⟩ | ⟨c, hlead, hc⟩
    · rcases a with _ | ⟨d, a⟩
      · obtain ⟨-, rfl⟩ := List.cons.inj ha
        exact Or.inl ⟨List.append_nil _, rfl⟩
      · obtain ⟨rfl, hrest⟩ := List.cons.inj ha
        -- the marker lies behind the name, as a name holds none
        rcases List.append_eq_append_iff.mp hrest with ⟨b, rfl, hb⟩ | ⟨c, hname, hc⟩
        · exact Or.inr ⟨b, rfl, hb, (hlast b).mp hisolated⟩
        · rcases c with _ | ⟨e, c⟩
          · rw [List.append_nil] at hname
            subst hname
            refine Or.inr ⟨[], by rw [List.append_nil], hc.symm, (hlast []).mp ?_⟩
            rwa [List.append_nil]
          · obtain ⟨rfl, -⟩ := List.cons.inj hc
            have hmem : marker ∈ r.name := by
              rw [hname]
              exact List.mem_append_right _ List.mem_cons_self
            exact absurd rfl (ne_marker_of_isWord hm (hword _ hmem))
    · rcases c with _ | ⟨d, c⟩
      · obtain ⟨-, rfl⟩ := List.cons.inj hc
        exact Or.inl ⟨by rw [hlead, List.append_nil], rfl⟩
      · obtain ⟨rfl, rfl⟩ := List.cons.inj hc
        -- in front of the first reference no marker is isolated
        exfalso
        have hnone := first?_eq_none_iff.mp (first?_lead h) before c hlead
        rcases c with _ | ⟨e, c⟩
        · refine getLast?_lead_ne h ?_
          rw [hlead]
          simp
        · exact hnone hisolated
  · rintro (⟨rfl, rfl⟩ | ⟨b, rfl, hb, hisolated⟩)
    · exact ⟨eq_of_first? h, isolated_lead hm h⟩
    · refine ⟨?_, (hlast b).mpr hisolated⟩
      rw [eq_of_first? h, hb]
      simp

end

/-! ### The scan -/

section

variable {marker : Char}

theorem ofBefore_append (offset : Nat) (lead name b other : Text) :
    Span.ofBefore marker offset (lead ++ marker :: (name ++ b)) other =
      Span.ofBefore marker (Span.ofBefore marker offset lead name).stop b other := by
  simp [Span.ofBefore, Nat.add_assoc]

/-- **A scan** finds the spans of the isolated markers. -/
theorem mem_spansFrom_iff (hm : isWord marker = false) {offset : Nat} {text : Text} {span : Span} :
    span ∈ spansFrom marker offset text ↔
      ∃ before after, (text = before ++ marker :: after ∧ Isolated marker before after) ∧
        span = Span.ofBefore marker offset before (after.takeWhile isWord) := by
  induction text using scan_induction marker generalizing offset with
  | none text h =>
    rw [spansFrom_of_none h]
    refine iff_of_false List.not_mem_nil ?_
    rintro ⟨before, after, ⟨heq, hisolated⟩, -⟩
    exact first?_eq_none_iff.mp h before after heq hisolated
  | some text r h ih =>
    rw [spansFrom_of_some h, List.mem_cons, ih]
    simp only [isolated_iff_of_first? hm h]
    constructor
    · rintro (rfl | ⟨b, after, ⟨htail, hisolated⟩, rfl⟩)
      · exact ⟨_, _, Or.inl ⟨rfl, rfl⟩, by rw [← name_eq_takeWhile h]⟩
      · exact ⟨_, after, Or.inr ⟨b, rfl, htail, hisolated⟩, (ofBefore_append ..).symm⟩
    · rintro ⟨before, after, ⟨rfl, rfl⟩ | ⟨b, rfl, htail, hisolated⟩, rfl⟩
      · exact Or.inl (by rw [← name_eq_takeWhile h])
      · exact Or.inr ⟨b, after, ⟨htail, hisolated⟩, ofBefore_append ..⟩

theorem start_lt_stop_ofBefore (offset : Nat) (before name : Text) :
    (Span.ofBefore marker offset before name).start <
      (Span.ofBefore marker offset before name).stop := by
  have := marker.utf8Size_pos
  simp only [Span.ofBefore, Text.byteLength_cons]
  omega

theorem le_start_of_mem_spansFrom {offset : Nat} {text : Text} {span : Span}
    (h : span ∈ spansFrom marker offset text) : offset ≤ span.start := by
  induction text using scan_induction marker generalizing offset with
  | none text hr => rw [spansFrom_of_none hr] at h; exact absurd h List.not_mem_nil
  | some text r hr ih =>
    have hle : offset ≤ (Span.ofBefore marker offset r.lead r.name).start := Nat.le_add_right _ _
    rw [spansFrom_of_some hr] at h
    rcases List.mem_cons.mp h with rfl | h
    · exact hle
    · exact (hle.trans (start_lt_stop_ofBefore ..).le).trans (ih h)

/-- The spans that a scan finds stand one behind the other. -/
theorem pairwise_spansFrom (offset : Nat) (text : Text) :
    (spansFrom marker offset text).Pairwise Span.Before := by
  induction text using scan_induction marker generalizing offset with
  | none text h => rw [spansFrom_of_none h]; exact List.Pairwise.nil
  | some text r h ih =>
    rw [spansFrom_of_some h]
    refine List.pairwise_cons.mpr ⟨fun span hspan => ?_, ih _⟩
    have hle := le_start_of_mem_spansFrom hspan
    exact ⟨(start_lt_stop_ofBefore ..).trans_le hle, hle⟩

/-- A scan that starts where a reference ends is a scan of the text behind it. -/
theorem spans?_byteLength (front rest : Text) :
    spans? marker (front ++ rest) front.byteLength =
      some (spansFrom marker front.byteLength rest) := by
  have hlength := Text.byteLength_append front rest
  rw [spans?_eq, if_neg (by omega), boundary, Text.dropBytes_byteLength_append, hlength,
    Nat.add_sub_cancel]

/-- **One more search**: the list goes on from the end of the reference that is found. -/
theorem spans?_eq_bind (text : Text) (start : Nat) :
    spans? marker text start = (next? marker text start).bind fun
      | none => some []
      | some span => (spans? marker text span.stop).map (span :: ·) := by
  fun_cases spans? marker text start <;> simp_all

/-- **Starting anew** at the end of a reference, a scan finds those behind it. -/
theorem spans?_stop {text : Text} {start : Nat} {span : Span} {later : List Span}
    (h : spans? marker text start = some (span :: later)) :
    spans? marker text span.stop = some later := by
  rw [spans?_eq_bind] at h
  obtain ⟨_ | found, -, h⟩ := Option.bind_eq_some_iff.mp h
  · cases h
  · obtain ⟨rest, hrest, heq⟩ := Option.map_eq_some_iff.mp h
    obtain ⟨rfl, rfl⟩ := List.cons.inj heq
    exact hrest

theorem stands_iff (hm : isWord marker = false) {text : Text} {span : Span} :
    span.Stands marker text ↔
      ∃ before after, (text = before ++ marker :: after ∧ Isolated marker before after) ∧
        span = Span.ofBefore marker 0 before (after.takeWhile isWord) := by
  refine exists₂_congr fun before after => ?_
  rw [isolated_iff hm, and_assoc, and_assoc]
  refine and_congr_right fun _ => and_congr_right fun _ => ?_
  obtain ⟨start, stop, name⟩ := span
  simp only [Span.ofBefore, Span.mk.injEq, Text.byteLength_append, Nat.zero_add]
  constructor
  · rintro ⟨rfl, hne, rfl, rfl⟩
    exact ⟨hne, rfl, rfl, rfl⟩
  · rintro ⟨hne, rfl, rfl, rfl⟩
    exact ⟨rfl, hne, rfl, rfl⟩

/-- **The scan finds exactly the references**: searching again and again, each time from the end of
the reference that was found, until nothing is found, gives the one list of spans that stand one
behind the other and are all the spans in the text at which a marker, without another one before it,
is followed by a name. -/
theorem spans?_zero_eq_some_iff (hm : isWord marker = false) (text : Text) :
    (∃ spans, spans? marker text 0 = some spans) ∧
      (∀ start, spans? marker text start = (next? marker text start).bind fun
        | none => some []
        | some span => (spans? marker text span.stop).map (span :: ·)) ∧
      (∀ start span later, spans? marker text start = some (span :: later) →
        spans? marker text span.stop = some later) ∧
      ∀ spans, spans? marker text 0 = some spans ↔
        spans.Pairwise Span.Before ∧ ∀ span, span ∈ spans ↔ span.Stands marker text := by
  have hscan : spans? marker text 0 = some (spansFrom marker 0 text) := spans?_byteLength [] text
  have hmem : ∀ span, span ∈ spansFrom marker 0 text ↔ span.Stands marker text := fun span => by
    rw [mem_spansFrom_iff hm, stands_iff hm]
  refine ⟨⟨_, hscan⟩, spans?_eq_bind text, fun _ _ _ => spans?_stop, fun spans => ?_⟩
  rw [hscan, Option.some.injEq]
  constructor
  · rintro rfl
    exact ⟨pairwise_spansFrom 0 text, hmem⟩
  · rintro ⟨hpairwise, hstands⟩
    refine (pairwise_spansFrom 0 text).eq_of_mem_iff hpairwise fun span => ?_
    rw [hmem, hstands]

/-- A marker and a name of two bytes a character; a run of markers, a marker at the end, and one in
front of a space stand for themselves. The search that starts in front of the run passes over it. -/
theorem spans?_zero_eq_some_iff_two_bytes :
    let text := "§é=§§a §b§c § x§".toList
    let spans : List Span := [⟨0, 4, ['é']⟩, ⟨11, 14, ['b']⟩, ⟨14, 17, ['c']⟩]
    isWord '§' = false ∧ spans? '§' text 0 = some spans ∧
      next? '§' text 4 = some (some ⟨11, 14, ['b']⟩) ∧ spans.Pairwise Span.Before ∧
      ∀ span, span ∈ spans ↔ span.Stands '§' text := by
  intro text spans
  have hm : isWord '§' = false := by decide +kernel
  have hspans : spans? '§' text 0 = some spans := by decide +kernel
  have hnext : next? '§' text 4 = some (some ⟨11, 14, ['b']⟩) := by decide +kernel
  exact ⟨hm, hspans, hnext, ((spans?_zero_eq_some_iff hm text).2.2.2 spans).mp hspans⟩

end

end Reference

end NamedSql
