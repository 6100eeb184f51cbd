import Mathlib.Data.List.TakeWhile
import Mathlib.Tactic.SplitIfs
import NamedSql.Draft

/-! # Words read backward across a seam

The context of a reference is read from the text behind it. That text has a seam: near the
reference lies text `l` that nothing has touched, and farther away text `b` that ends in a
reference, or in what has been written for one. What matters of `b` is one character `x` in its last
word that occurs in no keyword: the placeholder if the reference has been expanded, its marker if it
has not (`SealedBy`). Then a word that begins in `l` ends in `l`, or it reaches across the seam and
holds `x` (`lastWord_append_of_ne_nil`, `lastWord_append_of_eq_nil`), so two texts with such ends
give the same context up to the field that reaches across (`alike_ofBehind`). -/

namespace NamedSql

/-! ### Characters that no keyword holds -/

/-- No keyword, in whatever case, holds the character. -/
def Unspelled (c : Char) : Prop :=
  c.toUpper ∉ "IN".toList ∧ c.toUpper ∉ "LIKE_ANY".toList ∧ c.toUpper ∉ "NOT".toList

theorem canMark_iff {c : Char} : Settings.canMark c = true ↔
    isAlphabetic c = false ∧ isNumber c = false ∧ c ≠ '_' ∧ isBlank c = false ∧ c ≠ '?' := by
  simp [Settings.canMark, isAlphanumeric, and_assoc]

theorem toUpper_eq_self {c : Char} (h : c.isAlpha = false) : c.toUpper = c := by
  unfold Char.toUpper
  rw [dif_neg]
  intro hc
  unfold Char.isAlpha Char.isLower at h
  simp only [Bool.or_eq_false_iff, Bool.and_eq_false_iff, decide_eq_false_iff_not] at h
  rcases h.2 with h1 | h1
  · exact h1 hc.1
  · exact h1 hc.2

theorem unspelled_of_canMark {c : Char} (h : Settings.canMark c = true) : Unspelled c := by
  obtain ⟨ha, -, hu, -, -⟩ := canMark_iff.mp h
  have hna : c.isAlpha = false := by
    by_contra hc
    rw [isAlphabetic_of_isAlpha (by simpa using hc)] at ha
    exact absurd ha (by simp)
  have hword : ∀ word : Text, word.all (fun d => d.isAlpha || d == '_') = true →
      c.toUpper ∉ word := by
    intro word hletters hmem
    rw [toUpper_eq_self hna] at hmem
    have hc := List.all_eq_true.mp hletters c hmem
    rw [hna, Bool.false_or] at hc
    exact hu (beq_iff_eq.mp hc)
  exact ⟨hword _ (by decide), hword _ (by decide), hword _ (by decide)⟩

theorem not_isWord_of_isBlank {c : Char} (h : isBlank c = true) : isWord c = false := by
  have hall : ∀ r ∈ RangeTable.blank.ranges, ∀ k < r.2 + 1 - r.1,
      (RangeTable.alphabetic.contains (r.1 + k) || RangeTable.mark.contains (r.1 + k) ||
        RangeTable.decimalDigit.contains (r.1 + k) || RangeTable.connector.contains (r.1 + k) ||
        RangeTable.joinControl.contains (r.1 + k)) = false := by decide +kernel
  obtain ⟨r, hr, h1, h2⟩ := (RangeTable.contains_iff _ _).mp h
  have hk := hall r hr (c.toNat - r.1) (by omega)
  rw [Nat.add_sub_cancel' h1] at hk
  simp only [isWord, isAlphabetic, isMark, isDecimalDigit, isConnector, isJoinControl, hk,
    Bool.false_and]

theorem inWord_of_isWord {c : Char} (h : isWord c = true) : Context.inWord c = true := by
  have hparen : isWord '(' = false := by decide +kernel
  simp only [Context.inWord, Bool.not_eq_true', Bool.or_eq_false_iff, beq_eq_false_iff_ne]
  constructor
  · by_contra hb
    rw [not_isWord_of_isBlank (by simpa using hb)] at h
    exact absurd h (by simp)
  · rintro rfl
    rw [hparen] at h
    exact absurd h (by simp)

theorem inWord_placeholder : Context.inWord Expansion.placeholder = true := by decide +kernel

theorem unspelled_placeholder : Unspelled Expansion.placeholder := by
  refine ⟨?_, ?_, ?_⟩ <;> decide

theorem inWord_of_canMark {c : Char} (h : Settings.canMark c = true) (hc : c ≠ '(') :
    Context.inWord c = true := by
  simp [Context.inWord, (canMark_iff.mp h).2.2.2.1, hc]

namespace Context

/-- A word with such a character is not the given keyword. -/
theorem spells_eq_false {word token : Text} {x : Char} (hx : x.toUpper ∉ word) (h : x ∈ token) :
    spells word token = false := by
  simp only [spells, beq_eq_false_iff_ne]
  rintro rfl
  exact hx (List.mem_map_of_mem h)

theorem ofToken?_eq_none {token : Text} {x : Char} (hx : Unspelled x) (h : x ∈ token) :
    Keyword.ofToken? token = none := by
  unfold Keyword.ofToken?
  rw [spells_eq_false hx.1 h, spells_eq_false hx.2.1 h]
  rfl

theorem spells_not_eq_false {token : Text} {x : Char} (hx : Unspelled x) (h : x ∈ token) :
    spells "NOT".toList token = false := spells_eq_false hx.2.2 h

/-! ### The seam -/

/-- The text ends, nearest character first, in a word that holds `x`. -/
def SealedBy (x : Char) (behind : Text) : Prop := x ∈ behind.takeWhile inWord

theorem SealedBy.dropWhile_isBlank {x : Char} {b : Text} (h : SealedBy x b) :
    b.dropWhile isBlank = b := by
  cases b with
  | nil => rfl
  | cons c b =>
    have hc : inWord c = true := by
      by_contra hc
      rw [SealedBy, List.takeWhile_cons_of_neg hc] at h
      exact absurd h (by simp)
    have hb : isBlank c = false := by
      simp only [inWord, Bool.not_eq_true', Bool.or_eq_false_iff] at hc
      exact hc.1
    rw [List.dropWhile_cons_of_neg (by simp [hb])]

theorem SealedBy.length_dropWhile_lt {x : Char} {b : Text} (h : SealedBy x b) :
    (b.dropWhile inWord).length < b.length := by
  have hlen := congrArg List.length (List.takeWhile_append_dropWhile (p := inWord) (l := b))
  have hpos := List.length_pos_of_mem h
  rw [List.length_append] at hlen
  omega

theorem sealedBy_append {x : Char} {s : Text} (hs : ∀ c ∈ s, inWord c = true)
    (hx : inWord x = true) (b : Text) : SealedBy x (s ++ x :: b) := by
  rw [SealedBy, List.takeWhile_append_of_pos hs, List.takeWhile_cons_of_pos hx]
  simp

/-- A word that ends in front of the seam is the same without the text beyond. -/
theorem lastWord_append_of_ne_nil {l : Text} (h : (lastWord l).2 ≠ []) (b : Text) :
    lastWord (l ++ b) = ((lastWord l).1, (lastWord l).2 ++ b) := by
  simp only [lastWord] at h ⊢
  have h1 : (l ++ b).dropWhile isBlank = l.dropWhile isBlank ++ b := by
    rw [List.dropWhile_append, if_neg]
    intro he
    rw [List.isEmpty_iff.mp he] at h
    exact h rfl
  have h2 : ((l.dropWhile isBlank).takeWhile inWord).length ≠ (l.dropWhile isBlank).length := by
    intro he
    have := congrArg List.length
      (List.takeWhile_append_dropWhile (p := inWord) (l := l.dropWhile isBlank))
    rw [List.length_append] at this
    exact h (List.eq_nil_of_length_eq_zero (by omega))
  rw [h1, List.takeWhile_append, if_neg h2, List.dropWhile_append, if_neg]
  simpa using h

/-- A word that does not end in front of the seam takes the last word beyond. -/
theorem lastWord_append_of_eq_nil {x : Char} {l b : Text} (h : (lastWord l).2 = [])
    (hb : SealedBy x b) :
    x ∈ (lastWord (l ++ b)).1 ∧ (lastWord (l ++ b)).2 = b.dropWhile inWord := by
  simp only [lastWord] at h ⊢
  have hall : ∀ c ∈ l.dropWhile isBlank, inWord c = true := List.dropWhile_eq_nil_iff.mp h
  have h1 : (l ++ b).dropWhile isBlank = l.dropWhile isBlank ++ b := by
    rw [List.dropWhile_append]
    split_ifs with he
    · rw [List.isEmpty_iff.mp he, hb.dropWhile_isBlank, List.nil_append]
    · rfl
  rw [h1, List.takeWhile_append_of_pos hall, List.dropWhile_append_of_pos hall]
  refine ⟨?_, rfl⟩
  rw [List.mem_reverse]
  exact List.mem_append_right _ hb

/-! ### Contexts across the seam -/

/-- The context that a keyword makes after a field, which must not be empty. -/
def ofField (negated : Bool) (keyword : Keyword) (field : Text × Text) : Context :=
  if field.1 = [] then .scalar else ofKeyword field.2 field.1 negated keyword

theorem ofBehind_of_none {behind : Text} (h : Keyword.ofToken? (lastWord behind).1 = none) :
    ofBehind behind = .scalar := by
  simp only [ofBehind, h]

theorem ofBehind_of_some {behind : Text} {keyword : Keyword}
    (h : Keyword.ofToken? (lastWord behind).1 = some keyword) :
    ofBehind behind =
      if spells "NOT".toList (lastWord (lastWord behind).2).1 = true then
        ofField true keyword (lastWord (lastWord (lastWord behind).2).2)
      else ofField false keyword (lastWord (lastWord behind).2) := by
  simp only [ofBehind, h, ofField]
  split_ifs with h1 <;> simp_all

/-- Two contexts say the same of a reference behind which, beyond the same text, `b` lies in the one
case and `b'` in the other: they agree, but a field that reaches across the seam holds `x` in the
one case and `x'` in the other. -/
inductive Alike (x x' : Char) (b b' : Text) : Context → Context → Prop
  | scalar : Alike x x' b b' .scalar .scalar
  | inList (negated : Bool) : Alike x x' b b' (.inList negated) (.inList negated)
  | within (front field : Text) (negated : Bool) :
      Alike x x' b b' (.likeAny (front ++ b) field negated) (.likeAny (front ++ b') field negated)
  | across {front field front' field' : Text} (negated : Bool) (hx : x ∈ field)
      (hfront : front.length < b.length) (hx' : x' ∈ field') (hfront' : front'.length < b'.length) :
      Alike x x' b b' (.likeAny front field negated) (.likeAny front' field' negated)

section

variable {x x' : Char} {b b' : Text} (hb : SealedBy x b) (hb' : SealedBy x' b')
include hb hb'

theorem alike_ofField (l : Text) (negated : Bool) (keyword : Keyword) :
    Alike x x' b b' (ofField negated keyword (lastWord (l ++ b)))
      (ofField negated keyword (lastWord (l ++ b'))) := by
  by_cases hl : (lastWord l).2 = []
  · obtain ⟨h1, h2⟩ := lastWord_append_of_eq_nil hl hb
    obtain ⟨h1', h2'⟩ := lastWord_append_of_eq_nil hl hb'
    unfold ofField
    rw [if_neg (List.ne_nil_of_mem h1), if_neg (List.ne_nil_of_mem h1'), h2, h2']
    cases keyword with
    | inList => exact .inList negated
    | likeAny =>
      exact .across negated h1 hb.length_dropWhile_lt h1' hb'.length_dropWhile_lt
  · rw [lastWord_append_of_ne_nil hl, lastWord_append_of_ne_nil hl]
    unfold ofField
    split_ifs
    · exact .scalar
    · cases keyword with
      | inList => exact .inList negated
      | likeAny => exact .within _ _ negated

/-- **Both sides of a seam**: the context of a reference does not depend on the text beyond the
seam, up to a field that reaches across. -/
theorem alike_ofBehind (hx : Unspelled x) (hx' : Unspelled x') (l : Text) :
    Alike x x' b b' (ofBehind (l ++ b)) (ofBehind (l ++ b')) := by
  by_cases hl : (lastWord l).2 = []
  · -- the word in front of the reference reaches across, so it is no keyword
    rw [ofBehind_of_none (ofToken?_eq_none hx (lastWord_append_of_eq_nil hl hb).1),
      ofBehind_of_none (ofToken?_eq_none hx' (lastWord_append_of_eq_nil hl hb').1)]
    exact .scalar
  have h1 := lastWord_append_of_ne_nil hl b
  have h1' := lastWord_append_of_ne_nil hl b'
  cases hk : Keyword.ofToken? (lastWord l).1 with
  | none =>
    rw [ofBehind_of_none (by rw [h1, hk]), ofBehind_of_none (by rw [h1', hk])]
    exact .scalar
  | some keyword =>
    rw [ofBehind_of_some (by rw [h1, hk]), ofBehind_of_some (by rw [h1', hk]), h1, h1']
    generalize (lastWord l).2 = l at *
    by_cases hl2 : (lastWord l).2 = []
    · -- the word in front of the keyword reaches across, so it is the field and not NOT
      rw [if_neg (by
          rw [spells_not_eq_false hx (lastWord_append_of_eq_nil hl2 hb).1]
          simp),
        if_neg (by
          rw [spells_not_eq_false hx' (lastWord_append_of_eq_nil hl2 hb').1]
          simp)]
      exact alike_ofField hb hb' l false keyword
    · have h2 := lastWord_append_of_ne_nil hl2 b
      have h2' := lastWord_append_of_ne_nil hl2 b'
      by_cases hn : spells "NOT".toList (lastWord l).1 = true
      · rw [if_pos (by rw [h2]; exact hn), if_pos (by rw [h2']; exact hn), h2, h2']
        exact alike_ofField hb hb' _ true keyword
      · rw [if_neg (by rw [h2]; exact hn), if_neg (by rw [h2']; exact hn)]
        exact alike_ofField hb hb' l false keyword

end

theorem alike_nil (x x' : Char) (context : Context) : Alike x x' [] [] context context := by
  cases context with
  | scalar => exact .scalar
  | inList negated => exact .inList negated
  | likeAny front field negated =>
    have := @Alike.within x x' [] [] front field negated
    rwa [List.append_nil] at this

/-- The same where there may be nothing beyond the seam, on either side. -/
theorem alike_of_nil_or_sealedBy {x x' : Char} {b b' : Text}
    (h : b = [] ∧ b' = [] ∨ SealedBy x b ∧ SealedBy x' b') (hx : Unspelled x)
    (hx' : Unspelled x') (l : Text) :
    Alike x x' b b' (ofBehind (l ++ b)) (ofBehind (l ++ b')) := by
  rcases h with ⟨rfl, rfl⟩ | ⟨hb, hb'⟩
  · exact alike_nil _ _ _
  · exact alike_ofBehind hb hb' hx hx' l

end Context

end NamedSql
