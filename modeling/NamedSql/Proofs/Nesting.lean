import Mathlib.Data.List.Infix
import NamedSql.Proofs.Acceptance
import NamedSql.Proofs.Markers

/-! # Parentheses of the SQL

The nesting of a text is the number of parentheses that it opens and leaves open. A text is balanced
if it never closes a parenthesis that it has not opened and leaves none open.

A scalar and a group are balanced, as is the reference that they stand for. A field in front of
LIKE_ANY is a word, which may close parentheses and opens none, since a word begins behind an
opening one. The first copy of it closes what the field closes in the template, and each further
copy closes as much again (`Occurrence.excess`). So the SQL leaves open as much as the template less the excess
of its occurrences (`nesting_replacements`), and the SQL of a balanced template is balanced exactly
if no field that closes a parenthesis is repeated (`balanced_sql_iff`). -/

namespace NamedSql

/-! ### Nesting -/

namespace Text

/-- The number of parentheses that a text opens and leaves open. -/
def nesting (t : Text) : Int := t.count '(' - t.count ')'

/-- The parentheses of a text match: none is closed that is not open, and none is left open. -/
structure Balanced (t : Text) : Prop where
  closes : ∀ s, s <+: t → s.count ')' ≤ s.count '('
  total : t.count ')' = t.count '('

/-- No beginning of the text has less than the given nesting. -/
def StaysAbove (low : Int) (t : Text) : Prop := ∀ s, s <+: t → low ≤ nesting s

variable {s t : Text} {low : Int}

instance : Decidable (Balanced t) :=
  decidable_of_iff ((∀ s ∈ t.inits, s.count ')' ≤ s.count '(') ∧ t.count ')' = t.count '(')
    ⟨fun h => ⟨fun s hs => h.1 s ((List.mem_inits s t).mpr hs), h.2⟩,
      fun h => ⟨fun s hs => h.closes s ((List.mem_inits s t).mp hs), h.total⟩⟩

@[simp] theorem nesting_append (s t : Text) : nesting (s ++ t) = nesting s + nesting t := by
  simp only [nesting, List.count_append]
  omega

theorem balanced_iff_staysAbove : Balanced t ↔ StaysAbove 0 t ∧ nesting t = 0 := by
  constructor
  · intro h
    refine ⟨fun s hs => ?_, ?_⟩
    · have := h.closes s hs
      simp only [nesting]
      omega
    · have := h.total
      simp only [nesting]
      omega
  · rintro ⟨h, htotal⟩
    refine ⟨fun s hs => ?_, ?_⟩
    · have := h s hs
      simp only [nesting] at this
      omega
    · simp only [nesting] at htotal
      omega

theorem StaysAbove.le_nesting (h : StaysAbove low t) : low ≤ nesting t := h t (List.prefix_refl t)

theorem StaysAbove.mono {low' : Int} (h : StaysAbove low t) (hle : low' ≤ low) :
    StaysAbove low' t :=
  fun s hs => hle.trans (h s hs)

theorem staysAbove_append :
    StaysAbove low (s ++ t) ↔ StaysAbove low s ∧ StaysAbove (low - nesting s) t := by
  constructor
  · intro h
    refine ⟨fun p hp => h p (hp.trans (List.prefix_append s t)), fun p hp => ?_⟩
    have := h (s ++ p) ((List.prefix_append_right_inj s).mpr hp)
    rw [nesting_append] at this
    omega
  · rintro ⟨hs, ht⟩ p hp
    rcases List.prefix_or_prefix_of_prefix hp (List.prefix_append s t) with hps | ⟨q, rfl⟩
    · exact hs p hps
    · have := ht q ((List.prefix_append_right_inj s).mp hp)
      rw [nesting_append]
      omega

/-- A text that opens no parenthesis nests least at its end. -/
theorem staysAbove_nesting (h : '(' ∉ t) : StaysAbove (nesting t) t := by
  intro s hs
  have hclose := hs.sublist.count_le ')'
  have hopen := List.count_eq_zero.mpr h
  simp only [nesting]
  omega

/-- A pair of parentheses with none between them is balanced. -/
theorem nesting_parenthesized {body : Text} (hopen : body.count '(' = 0)
    (hclose : body.count ')' = 0) :
    nesting ('(' :: (body ++ [')'])) = 0 ∧ StaysAbove 0 ('(' :: (body ++ [')'])) := by
  constructor
  · rw [nesting, List.count_cons_self, List.count_cons_of_ne (by decide), List.count_append,
      List.count_append, hopen, hclose]
    rfl
  · intro s hs
    rcases List.prefix_cons_iff.mp hs with rfl | ⟨s, rfl, htail⟩
    · exact le_rfl
    · -- what lies behind the first parenthesis closes at most one
      have hle := htail.sublist.count_le ')'
      rw [List.count_append, hclose, List.count_singleton_self] at hle
      have hopened : ('(' :: s).count '(' = s.count '(' + 1 := List.count_cons_self
      have hclosed : ('(' :: s).count ')' = s.count ')' := List.count_cons_of_ne (by decide)
      rw [nesting, hopened, hclosed]
      omega

end Text

/-! ### Expansions -/

namespace Expansion

/-- A character that only fields hold is repeated as often as the field is. -/
theorem count_alternatives_of_not_mem {c : Char} {negated : Bool}
    (hc : c ∉ operator negated ++ single ++ joiner negated) (field : Text) (n : Nat) :
    (alternatives field n negated).count c = n * field.count c := by
  simp only [List.mem_append, not_or] at hc
  have hone : (comparison field negated).count c = field.count c := by
    rw [comparison_eq, List.count_append, List.count_append, List.count_eq_zero.mpr hc.1.1,
      List.count_eq_zero.mpr hc.1.2]
    omega
  induction n with
  | zero =>
    have hnil : alternatives field 0 negated = [] := rfl
    rw [hnil, List.count_nil, Nat.zero_mul]
  | succ n ih =>
    cases n with
    | zero => rw [alternatives_one, hone, Nat.zero_add, Nat.one_mul]
    | succ n =>
      rw [alternatives_succ, List.count_append, List.count_append, hone, ih,
        List.count_eq_zero.mpr hc.2, Nat.succ_mul (n + 1)]
      omega

theorem not_mem_keywords (negated : Bool) :
    '(' ∉ operator negated ++ single ++ joiner negated ∧
      ')' ∉ operator negated ++ single ++ joiner negated := by
  cases negated <;> decide +kernel

theorem nesting_group (n : Nat) :
    Text.nesting (group n) = 0 ∧ Text.StaysAbove 0 (group n) := by
  have hbody : ∀ c, c ∉ ", ".toList → c ∉ single →
      (", ".toList.intercalate (List.replicate n single)).count c = 0 := by
    intro c hcomma hsingle
    refine List.count_eq_zero.mpr fun hmem => ?_
    rcases mem_of_mem_intercalate_replicate hmem with h | h
    · exact hcomma h
    · exact hsingle h
  exact Text.nesting_parenthesized (hbody '(' (by decide +kernel) (by decide +kernel))
    (hbody ')' (by decide +kernel) (by decide +kernel))

end Expansion

/-! ### One occurrence -/

namespace Occurrence

/-- The text of the template for an occurrence: what lies between it and the previous one, and its
reference. -/
def original (marker : Char) (o : Occurrence) : Text := o.gap o.behind ++ marker :: o.name

/-- The occurrences and the text behind them make up the template. -/
theorem flatMap_original_listFrom (marker : Char) (behind ahead : Text) :
    (listFrom marker behind ahead).1.flatMap (original marker) ++ (listFrom marker behind ahead).2 =
      ahead := by
  induction ahead using Reference.scan_induction marker generalizing behind with
  | none ahead h => rw [listFrom_of_none h]; rfl
  | some ahead r h ih =>
    rw [listFrom_of_some h]
    dsimp only
    rw [List.flatMap_cons, List.append_assoc, ih, original, gap_append _ _ _ rfl]
    simp [Reference.eq_of_first? h]

/-- How many parentheses the expansion of an occurrence closes more than its reference. -/
def excess (dialect : Dialect) (capacities : Dict Nat) (o : Occurrence) : Nat :=
  match o.context with
  | .likeAny _ field _ => (dialect.room capacities o.name - 1) * field.count ')'
  | _ => 0

variable {dialect : Dialect} {capacities : Dict Nat} {o : Occurrence}

theorem room_pos {name : Text} (h : capacities.get? name ≠ some 0) :
    0 < dialect.room capacities name :=
  Dialect.capacityOf_pos ((capacityOf_eq dialect capacities name).trans (if_neg h))

theorem gap_append_front {front : Text} (h : o.previous ≤ front.length) (near : Text) :
    o.gap (near ++ front) = o.gap front ++ near.reverse := by
  have hlength : (near ++ front).length - o.previous =
      near.length + (front.length - o.previous) := by
    rw [List.length_append]
    omega
  rw [gap, gap, hlength, List.take_length_add_append, List.reverse_append]

theorem unspelled_open : Unspelled '(' := by
  refine ⟨?_, ?_, ?_⟩ <;> decide

theorem unspelled_close : Unspelled ')' := by
  refine ⟨?_, ?_, ?_⟩ <;> decide

/-- The field and the keywords behind it, up to the reference. -/
theorem exists_gap_eq {front field : Text} {negated : Bool}
    (hcontext : o.context = .likeAny front field negated) (hfront : o.previous ≤ front.length) :
    ∃ near, o.gap o.behind = o.gap front ++ near ∧ near.count '(' = 0 ∧
      near.count ')' = field.count ')' ∧ '(' ∉ field := by
  obtain ⟨gap, c, hbehind, -, hfield, -⟩ := Context.exists_of_ofBehind_eq_likeAny hcontext
  have hnear : o.behind = (gap ++ c :: field.reverse) ++ front := by
    rw [hbehind, List.append_assoc, List.cons_append]
  have hopen : '(' ∉ field := fun hmem => absurd (hfield _ hmem) (by decide +kernel)
  have hcount : ∀ x, isBlank x = false → Unspelled x →
      (gap ++ c :: field.reverse).reverse.count x = field.count x := by
    intro x hblank hspell
    have hall := Context.count_of_ofBehind_eq_likeAny hblank hspell hcontext
    rw [hnear, List.count_append] at hall
    rw [List.count_reverse]
    omega
  refine ⟨(gap ++ c :: field.reverse).reverse, ?_, ?_,
    hcount ')' (by decide +kernel) unspelled_close, hopen⟩
  · rw [← gap_append_front hfront, hnear]
  · rw [hcount '(' (by decide +kernel) unspelled_open, List.count_eq_zero.mpr hopen]

/-- The text of the template for an occurrence and what is written for it begin with the same text.
What follows in the one closes as much as what follows in the other and the excess, and nests least
at its end. -/
theorem exists_nesting (hreference : Text.nesting (dialect.marker :: o.name) = 0)
    (hrefusal : o.refusal? capacities = none) :
    ∃ kept removed written, o.original dialect.marker = kept ++ removed ∧
      o.replacement dialect capacities = kept ++ written ∧
      Text.nesting removed = Text.nesting written + o.excess dialect capacities ∧
      Text.StaysAbove (Text.nesting written) written := by
  cases hcontext : o.context with
  | scalar =>
    refine ⟨o.gap o.behind, dialect.marker :: o.name, Expansion.single, rfl, ?_, ?_,
      Text.staysAbove_nesting (by decide +kernel)⟩
    · rw [replacement, hcontext]
    · rw [hreference, excess, hcontext]
      rfl
  | inList negated =>
    obtain ⟨hzero, habove⟩ := Expansion.nesting_group (dialect.room capacities o.name)
    refine ⟨o.gap o.behind, dialect.marker :: o.name,
      Expansion.group (dialect.room capacities o.name), rfl, ?_, ?_, ?_⟩
    · rw [replacement, hcontext]
    · rw [hreference, excess, hcontext, hzero]
      rfl
    · rwa [hzero]
  | likeAny front field negated =>
    rw [refusal?, hcontext] at hrefusal
    dsimp only at hrefusal
    split_ifs at hrefusal with htaken hzero
    rw [FieldTaken, not_or, Nat.not_lt] at htaken
    obtain ⟨near, hgap, hopen, hclose, hfield⟩ := exists_gap_eq hcontext htaken.1
    obtain ⟨hopens, hcloses⟩ := Expansion.not_mem_keywords negated
    have hroom : 0 < dialect.room capacities o.name := room_pos hzero
    -- the copies of the field close what they hold and open nothing
    have hwritten := Expansion.count_alternatives_of_not_mem hopens field
      (dialect.room capacities o.name)
    rw [List.count_eq_zero.mpr hfield, Nat.mul_zero] at hwritten
    refine ⟨o.gap front, near ++ dialect.marker :: o.name,
      Expansion.alternatives field (dialect.room capacities o.name) negated, ?_, ?_, ?_,
      Text.staysAbove_nesting (List.count_eq_zero.mp hwritten)⟩
    · rw [original, hgap, List.append_assoc]
    · rw [replacement, hcontext]
    · rw [Text.nesting_append, hreference, excess, hcontext, Text.nesting, Text.nesting, hopen,
        hclose, hwritten, Expansion.count_alternatives_of_not_mem hcloses]
      obtain ⟨n, hn⟩ := Nat.exists_eq_succ_of_ne_zero hroom.ne'
      dsimp only
      rw [hn, Nat.succ_sub_one, Nat.succ_mul]
      omega

theorem excess_eq_zero_iff (hrefusal : o.refusal? capacities = none) :
    o.excess dialect capacities = 0 ↔ ∀ front field negated,
      o.context = .likeAny front field negated →
        dialect.room capacities o.name = 1 ∨ ')' ∉ field := by
  unfold excess
  cases hcontext : o.context with
  | scalar => exact iff_of_true rfl fun _ _ _ h => by cases h
  | inList negated => exact iff_of_true rfl fun _ _ _ h => by cases h
  | likeAny front field negated =>
    have hlist : o.context ≠ .scalar := by simp [hcontext]
    have hroom : 0 < dialect.room capacities o.name :=
      room_pos ((refusal?_eq_none_iff.mp hrefusal).2.1 hlist)
    have hone : dialect.room capacities o.name - 1 = 0 ↔ dialect.room capacities o.name = 1 := by
      omega
    dsimp only
    rw [Nat.mul_eq_zero, hone, List.count_eq_zero]
    constructor
    · rintro h _ _ _ ⟨⟩
      exact h
    · exact fun h => h front field negated rfl

/-- A reference opens and closes no parenthesis. -/
theorem nesting_reference {marker : Char} (hopen : marker ≠ '(') (hclose : marker ≠ ')')
    {text : Text} (ho : o ∈ (occurrences marker text).1) : Text.nesting (marker :: o.name) = 0 := by
  have hword := Reference.isWord_of_mem_names (List.mem_map_of_mem (f := (·.name)) ho)
  have hfree : ∀ c, isWord c = false → marker ≠ c → (marker :: o.name).count c = 0 := by
    intro c hc hne
    refine List.count_eq_zero.mpr fun hmem => ?_
    rcases List.mem_cons.mp hmem with rfl | hmem
    · exact hne rfl
    · rw [hword c hmem] at hc
      cases hc
  rw [Text.nesting, hfree '(' (by decide +kernel) hopen, hfree ')' (by decide +kernel) hclose]
  rfl

end Occurrence

/-! ### The whole text -/

section

open Occurrence

variable {dialect : Dialect} {capacities : Dict Nat} {found : List Occurrence}
  (hfound : ∀ o ∈ found, Text.nesting (dialect.marker :: o.name) = 0 ∧ o.refusal? capacities = none)
include hfound

/-- The SQL leaves open as many parentheses as the template less the excess of its occurrences. -/
theorem nesting_replacements :
    Text.nesting (found.flatMap (original dialect.marker)) =
      Text.nesting (found.flatMap (replacement dialect capacities)) +
        (found.map (excess dialect capacities)).sum := by
  induction found with
  | nil => rfl
  | cons o later ih =>
    obtain ⟨⟨hreference, hrefusal⟩, hlater⟩ := List.forall_mem_cons.mp hfound
    obtain ⟨kept, removed, written, horiginal, hreplacement, hnesting, -⟩ :=
      exists_nesting hreference hrefusal
    have ih := ih hlater
    simp only [List.flatMap_cons, List.map_cons, List.sum_cons, horiginal, hreplacement,
      Text.nesting_append]
    omega

/-- If no occurrence closes more than its reference, no place of the SQL nests below all places of
the template. -/
theorem staysAbove_replacements (hexcess : ∀ o ∈ found, o.excess dialect capacities = 0)
    {low : Int} {rest : Text}
    (h : Text.StaysAbove low (found.flatMap (original dialect.marker) ++ rest)) :
    Text.StaysAbove low (found.flatMap (replacement dialect capacities) ++ rest) := by
  induction found generalizing low with
  | nil => exact h
  | cons o later ih =>
    obtain ⟨⟨hreference, hrefusal⟩, hlater⟩ := List.forall_mem_cons.mp hfound
    obtain ⟨hzero, hexcess⟩ := List.forall_mem_cons.mp hexcess
    obtain ⟨kept, removed, written, horiginal, hreplacement, hnesting, habove⟩ :=
      exists_nesting hreference hrefusal
    have hsame : Text.nesting removed = Text.nesting written := by omega
    rw [List.flatMap_cons, horiginal, List.append_assoc, List.append_assoc, Text.staysAbove_append,
      Text.staysAbove_append, hsame] at h
    rw [List.flatMap_cons, hreplacement, List.append_assoc, List.append_assoc,
      Text.staysAbove_append, Text.staysAbove_append]
    obtain ⟨hkept, hremoved, hrest⟩ := h
    -- what is removed ends above the bound, and so does what is written, which nests least there
    have hend := hremoved.le_nesting
    rw [hsame] at hend
    exact ⟨hkept, habove.mono hend, ih hlater hexcess hrest⟩

end

section

variable {dialect : Dialect}

/-- **The SQL of a balanced template** is balanced exactly if each field in front of LIKE_ANY is
written only once or closes no parenthesis. -/
theorem balanced_sql_iff (hopen : dialect.marker ≠ '(') (hclose : dialect.marker ≠ ')')
    {text : Text} (hbalanced : text.Balanced) {capacities : Dict Nat} {plan : Plan}
    (h : dialect.compile text capacities = .ok plan) :
    plan.sql.Balanced ↔ ∀ o ∈ (occurrences dialect.marker text).1, ∀ front field negated,
      o.context = .likeAny front field negated → plan.capacity o.name = .ok 1 ∨ ')' ∉ field := by
  obtain ⟨hrefusal, -⟩ := (exists_compile_eq_ok_iff hopen text).mp ⟨plan, h⟩
  have hfound := fun o ho =>
    And.intro (Occurrence.nesting_reference hopen hclose ho) (hrefusal o ho)
  -- the condition says that no occurrence has an excess, and so that their sum is zero
  have hexcess : (∀ o ∈ (occurrences dialect.marker text).1, ∀ front field negated,
      o.context = .likeAny front field negated → plan.capacity o.name = .ok 1 ∨ ')' ∉ field) ↔
      ∀ o ∈ (occurrences dialect.marker text).1, o.excess dialect capacities = 0 := by
    refine forall₂_congr fun o ho => ?_
    rw [Occurrence.excess_eq_zero_iff (hrefusal o ho)]
    refine forall₃_congr fun front field negated => forall_congr' fun hcontext => ?_
    have hlist : o.context ≠ .scalar := by simp [hcontext]
    rw [capacity_eq_ok hopen h ho hlist, Except.ok.injEq]
  have hsum : (∀ o ∈ (occurrences dialect.marker text).1, o.excess dialect capacities = 0) ↔
      ((occurrences dialect.marker text).1.map (Occurrence.excess dialect capacities)).sum = 0 := by
    rw [List.sum_eq_zero_iff_forall_eq_nat, List.forall_mem_map]
  have htext : (occurrences dialect.marker text).1.flatMap (Occurrence.original dialect.marker) ++
      (occurrences dialect.marker text).2 = text :=
    Occurrence.flatMap_original_listFrom dialect.marker [] text
  have hnesting := nesting_replacements hfound
  obtain ⟨habove, htotal⟩ := Text.balanced_iff_staysAbove.mp hbalanced
  rw [← htext] at habove htotal
  rw [Text.nesting_append] at htotal
  rw [hexcess, Text.balanced_iff_staysAbove, (exists_of_compile_eq hopen h).1, Text.nesting_append]
  constructor
  · rintro ⟨-, hsql⟩
    refine hsum.mpr ?_
    omega
  · intro hzero
    have hzero' := hsum.mp hzero
    refine ⟨staysAbove_replacements hfound hzero habove, ?_⟩
    omega

/-- A group and an alternative in front of which a function is applied to the field: the field
closes the parenthesis of the function and is written once. -/
theorem balanced_sql_iff_once :
    let text : Text := "(x IN :p) OR lower(a) LIKE_ANY :k".toList
    let capacities := (Dict.empty.insert ['p'] 2).insert ['k'] 1
    text.Balanced ∧ ∃ plan, Dialect.standard.compile text capacities = .ok plan ∧
      plan.sql = "(x IN (?, ?)) OR lower(a) LIKE ?".toList ∧
      plan.sql.Balanced ∧ ∀ o ∈ (occurrences ':' text).1, ∀ front field negated,
        o.context = .likeAny front field negated →
          plan.capacity o.name = .ok 1 ∨ ')' ∉ field := by
  intro text capacities
  have hbalanced : text.Balanced := by decide +kernel
  have h : Dialect.standard.compile text capacities =
      .ok ⟨text, "(x IN (?, ?)) OR lower(a) LIKE ?".toList,
        ⟨3, [⟨['p'], .list 2, false⟩, ⟨['k'], .list 1, false⟩],
          [("p__0".toList, [1]), ("p__1".toList, [2]), ("k__0".toList, [3])]⟩⟩ := by decide +kernel
  have hsql : Text.Balanced "(x IN (?, ?)) OR lower(a) LIKE ?".toList := by decide +kernel
  exact ⟨hbalanced, _, h, rfl, hsql,
    (balanced_sql_iff (by decide) (by decide) hbalanced h).mp hsql⟩

/-- The field of a function that is applied in front of LIKE_ANY is the end of the call, and the
second copy of it closes a parenthesis that is not open. -/
theorem not_balanced_sql_like_any :
    let text : Text := "lower(a) LIKE_ANY :k".toList
    text.Balanced ∧ ∃ plan,
      Dialect.standard.compile text (Dict.empty.insert ['k'] 2) = .ok plan ∧
      plan.sql = "lower(a) LIKE ? OR a) LIKE ?".toList ∧ ¬plan.sql.Balanced := by
  intro text
  have h : Dialect.standard.compile text (Dict.empty.insert ['k'] 2) =
      .ok ⟨text, "lower(a) LIKE ? OR a) LIKE ?".toList,
        ⟨2, [⟨['k'], .list 2, false⟩], [("k__0".toList, [1]), ("k__1".toList, [2])]⟩⟩ := by
    decide +kernel
  exact ⟨by decide +kernel, _, h, rfl, by decide +kernel⟩

end

end NamedSql
