import NamedSql.Proofs.Field

/-! # The grammar of contexts

A reference stands for a list if the text in front of it ends in a phrase: a field, perhaps NOT, and
a keyword, with white space between them (`Phrase`). The words of a phrase are whole words, and the
field is not NOT unless NOT follows it once more (`Phrase.Valid`).

Reading backward finds a word where there is one (`Cut.lastWord_eq`) and nothing else
(`exists_cut`), and the word and what is behind it are the only ones (`Cut.unique`). So a text that
ends in a phrase has the context of the phrase (`ofBehind_reverse_text`), a text with another
context than a scalar ends in a phrase (`exists_phrase`), and in one phrase only
(`Phrase.eq_of_text_eq`). -/

namespace NamedSql

/-- The keyword as it is written in upper case. -/
def Keyword.spelling : Keyword → Text
  | inList => "IN".toList
  | likeAny => "LIKE_ANY".toList

namespace Context

/-- The text in front of a reference, cut at its words. -/
@[ext]
structure Phrase where
  /-- What stands in front of the field. -/
  front : Text
  /-- The field. -/
  field : Text
  /-- The white space behind the field and the word NOT, if it is there. -/
  negation : Option (Text × Text)
  /-- The white space in front of the keyword. -/
  gap : Text
  /-- The keyword. -/
  keyword : Keyword
  /-- The keyword as it is written. -/
  word : Text
  /-- The white space behind the keyword. -/
  trail : Text

namespace Phrase

/-- The white space behind the field and the word NOT as a text. -/
def negationText (p : Phrase) : Text := p.negation.elim [] fun (space, word) => space ++ word

/-- The parts one after the other. -/
def text (p : Phrase) : Text :=
  p.front ++ (p.field ++ (p.negationText ++ (p.gap ++ (p.word ++ p.trail))))

/-- The context that the phrase makes. -/
def context (p : Phrase) : Context :=
  ofKeyword p.front.reverse p.field p.negation.isSome p.keyword

/-- The parts are what they are called. -/
structure Valid (p : Phrase) : Prop where
  /-- The field begins where a word can begin. -/
  front : ∀ c ∈ p.front.getLast?, isBlank c = true ∨ c = '('
  field_ne_nil : p.field ≠ []
  field : ∀ c ∈ p.field, isBlank c = false ∧ c ≠ '('
  /-- Without NOT behind it the field is not NOT itself. -/
  not_spells : p.negation = none → spells "NOT".toList p.field = false
  negation : ∀ space word, p.negation = some (space, word) →
    space ≠ [] ∧ (∀ c ∈ space, isBlank c = true) ∧ spells "NOT".toList word = true
  gap_ne_nil : p.gap ≠ []
  gap : ∀ c ∈ p.gap, isBlank c = true
  word : spells p.keyword.spelling p.word = true
  trail : ∀ c ∈ p.trail, isBlank c = true

end Phrase

/-! ### One word -/

theorem inWord_eq_true_iff {c : Char} : inWord c = true ↔ isBlank c = false ∧ c ≠ '(' := by
  simp [inWord]

theorem inWord_eq_false_iff {c : Char} : inWord c = false ↔ isBlank c = true ∨ c = '(' := by
  simp only [inWord, Bool.not_eq_false', Bool.or_eq_true, beq_iff_eq]

/-- Behind the cursor there are white space, a word, and text that the word does not go on in. -/
structure Cut (behind gap word front : Text) : Prop where
  eq : behind = gap ++ (word.reverse ++ front)
  gap : ∀ c ∈ gap, isBlank c = true
  ne_nil : word ≠ []
  word : ∀ c ∈ word, inWord c = true
  front : ∀ c ∈ front.head?, inWord c = false

theorem mem_of_reverse_eq_cons {t rest : Text} {c : Char} (h : t.reverse = c :: rest) : c ∈ t := by
  rw [← List.mem_reverse, h]
  exact List.mem_cons_self

/-- The word is the one that is read. -/
theorem Cut.lastWord_eq {behind gap word front : Text} (h : Cut behind gap word front) :
    lastWord behind = (word, front) := by
  obtain ⟨c, rest, hword⟩ := List.exists_cons_of_ne_nil
    (show word.reverse ≠ [] by simpa using h.ne_nil)
  have hc : isBlank c = false :=
    (inWord_eq_true_iff.mp (h.word c (mem_of_reverse_eq_cons hword))).1
  have hblank : behind.dropWhile isBlank = word.reverse ++ front := by
    rw [h.eq, List.dropWhile_append_of_pos h.gap, hword, List.cons_append,
      List.dropWhile_cons_of_neg (by simp [hc])]
  have hall : ∀ c ∈ word.reverse, inWord c = true := fun c hc => h.word c (List.mem_reverse.mp hc)
  have htake : front.takeWhile inWord = [] := by
    cases hfront : front with
    | nil => rfl
    | cons d rest =>
      have hd := h.front d (by rw [hfront]; rfl)
      rw [List.takeWhile_cons_of_neg (by simp [hd])]
  have hdrop : front.dropWhile inWord = front := by
    have := List.takeWhile_append_dropWhile (p := inWord) (l := front)
    rwa [htake, List.nil_append] at this
  simp only [lastWord]
  rw [hblank, List.takeWhile_append_of_pos hall, List.dropWhile_append_of_pos hall, htake, hdrop,
    List.append_nil, List.reverse_reverse]

/-- There is one way to cut off the last word. -/
theorem Cut.unique {behind gap word front gap' word' front' : Text}
    (h : Cut behind gap word front) (h' : Cut behind gap' word' front') :
    gap = gap' ∧ word = word' ∧ front = front' := by
  obtain ⟨rfl, rfl⟩ := Prod.mk.inj (h.lastWord_eq.symm.trans h'.lastWord_eq)
  exact ⟨List.append_cancel_right (h.eq.symm.trans h'.eq), rfl, rfl⟩

/-- A word that is read can be cut off. -/
theorem exists_cut {behind : Text} (h : (lastWord behind).1 ≠ []) :
    Cut behind (behind.takeWhile isBlank) (lastWord behind).1 (lastWord behind).2 where
  eq := eq_of_lastWord behind
  gap := fun _ => List.mem_takeWhile_imp
  ne_nil := h
  word := fun _ => inWord_of_mem_lastWord
  front := lastWord_snd behind

/-- Where no word goes on, white space separates the word that is cut off. -/
theorem Cut.gap_ne_nil {behind gap word front : Text} (h : Cut behind gap word front)
    (hhead : ∀ c ∈ behind.head?, inWord c = false) : gap ≠ [] := by
  rintro rfl
  obtain ⟨c, rest, hword⟩ := List.exists_cons_of_ne_nil
    (show word.reverse ≠ [] by simpa using h.ne_nil)
  have hc := hhead c (by rw [h.eq, hword]; rfl)
  rw [h.word c (mem_of_reverse_eq_cons hword)] at hc
  cases hc

/-! ### Keywords -/

/-- White space is no letter of a keyword. -/
theorem toUpper_of_inWord_eq_false {c : Char} (h : inWord c = false) : c.toUpper = c := by
  refine toUpper_eq_self ?_
  rcases inWord_eq_false_iff.mp h with hblank | rfl
  · have hall : ∀ r ∈ RangeTable.blank.ranges, r.2 < 65 ∨ 122 < r.1 := by decide
    obtain ⟨r, hr, hlow, hhigh⟩ := (RangeTable.contains_iff _ _).mp hblank
    have hr := hall r hr
    have hnat : c.toNat = c.val.toNat := rfl
    unfold Char.isAlpha Char.isUpper Char.isLower
    simp only [UInt32.le_iff_toNat_le, ge_iff_le, Bool.or_eq_false_iff, Bool.and_eq_false_iff,
      decide_eq_false_iff_not, Char.reduceVal, UInt32.reduceToNat]
    omega
  · decide

/-- What spells a word without white space and parenthesis has none itself. -/
theorem inWord_of_spells {word token : Text} (hword : word.all inWord = true)
    (h : spells word token = true) : ∀ c ∈ token, inWord c = true := by
  intro c hc
  by_contra hfalse
  have hupper := toUpper_of_inWord_eq_false (by simpa using hfalse)
  rw [spells, beq_iff_eq] at h
  have hmem : c.toUpper ∈ word := h ▸ List.mem_map_of_mem hc
  rw [hupper] at hmem
  exact hfalse (List.all_eq_true.mp hword c hmem)

end Context

namespace Keyword

open Context (inWord)

theorem spelling_ne_nil (keyword : Keyword) : keyword.spelling ≠ [] := by
  cases keyword <;> decide

theorem all_inWord_spelling (keyword : Keyword) :
    keyword.spelling.all inWord = true := by
  cases keyword <;> decide +kernel

/-- A token is read as the keyword that it spells. -/
theorem ofToken?_eq_some_iff {keyword : Keyword} {token : Text} :
    ofToken? token = some keyword ↔ spells keyword.spelling token = true := by
  -- no token spells both keywords, since they differ in length
  have hboth : spells inList.spelling token = true →
      spells likeAny.spelling token = true → False := by
    intro h1 h2
    rw [spells, beq_iff_eq] at h1 h2
    exact absurd (h1.symm.trans h2) (by decide)
  unfold ofToken?
  split_ifs with h1 h2
  · cases keyword with
    | inList => exact ⟨fun _ => h1, fun _ => rfl⟩
    | likeAny => exact ⟨fun h => (by cases h), fun h => absurd h fun h => hboth h1 h⟩
  · cases keyword with
    | inList => exact ⟨fun h => (by cases h), fun h => absurd h h1⟩
    | likeAny => exact ⟨fun _ => h2, fun _ => rfl⟩
  · cases keyword with
    | inList => exact ⟨fun h => (by cases h), fun h => absurd h h1⟩
    | likeAny => exact ⟨fun h => (by cases h), fun h => absurd h h2⟩

end Keyword

namespace Context

/-! ### Phrases -/

namespace Phrase

variable {p q : Phrase}

theorem Valid.inWord_field (h : p.Valid) : ∀ c ∈ p.field, inWord c = true :=
  fun c hc => inWord_eq_true_iff.mpr (h.field c hc)

/-- What lies behind the end of the field, nearest character first. -/
def beforeField (p : Phrase) : Text := p.field.reverse ++ p.front.reverse

/-- What lies behind the end of NOT, or of the field if NOT is not there. -/
def beforeGap (p : Phrase) : Text := p.negationText.reverse ++ p.beforeField

/-- What lies behind the keyword. -/
def beforeKeyword (p : Phrase) : Text := p.gap.reverse ++ p.beforeGap

theorem reverse_text (p : Phrase) :
    p.text.reverse = p.trail.reverse ++ (p.word.reverse ++ p.beforeKeyword) := by
  simp [text, beforeKeyword, beforeGap, beforeField]

/-- White space, nearest character first, with something behind it. -/
theorem inWord_head_reverse {space : Text} (hne : space ≠ [])
    (hblank : ∀ c ∈ space, isBlank c = true) (t : Text) :
    ∀ c ∈ (space.reverse ++ t).head?, inWord c = false := by
  intro c hc
  obtain ⟨d, rest, hspace⟩ := List.exists_cons_of_ne_nil (show space.reverse ≠ [] by simpa using hne)
  rw [hspace] at hc
  obtain rfl : d = c := by simpa using hc
  exact inWord_eq_false_iff.mpr (Or.inl (hblank d (mem_of_reverse_eq_cons hspace)))

theorem ne_nil_of_spells {word token : Text} (h : spells word token = true) (hne : word ≠ []) :
    token ≠ [] := by
  rintro rfl
  rw [spells, beq_iff_eq] at h
  exact hne h.symm

/-- The last word of a phrase is the keyword. -/
theorem Valid.cut_word (h : p.Valid) :
    Cut p.text.reverse p.trail.reverse p.word p.beforeKeyword where
  eq := p.reverse_text
  gap := fun c hc => h.trail c (List.mem_reverse.mp hc)
  ne_nil := ne_nil_of_spells h.word p.keyword.spelling_ne_nil
  word := inWord_of_spells p.keyword.all_inWord_spelling h.word
  front := inWord_head_reverse h.gap_ne_nil h.gap _

/-- Without NOT the word in front of the keyword is the field. -/
theorem Valid.cut_field (h : p.Valid) (hnone : p.negation = none) :
    Cut p.beforeKeyword p.gap.reverse p.field p.front.reverse where
  eq := by rw [beforeKeyword, beforeGap, negationText, hnone]; rfl
  gap := fun c hc => h.gap c (List.mem_reverse.mp hc)
  ne_nil := h.field_ne_nil
  word := h.inWord_field
  front := fun c hc => inWord_eq_false_iff.mpr (h.front c (by rwa [List.head?_reverse] at hc))

/-- With NOT the word in front of the keyword is NOT. -/
theorem Valid.cut_not (h : p.Valid) {space word : Text} (hsome : p.negation = some (space, word)) :
    Cut p.beforeKeyword p.gap.reverse word (space.reverse ++ p.beforeField) where
  eq := by
    rw [beforeKeyword, beforeGap, negationText, hsome, Option.elim_some, List.reverse_append,
      List.append_assoc]
  gap := fun c hc => h.gap c (List.mem_reverse.mp hc)
  ne_nil := ne_nil_of_spells (h.negation space word hsome).2.2 (by decide)
  word := inWord_of_spells (by decide +kernel) (h.negation space word hsome).2.2
  front := inWord_head_reverse (h.negation space word hsome).1 (h.negation space word hsome).2.1 _

/-- And the word in front of NOT is the field. -/
theorem Valid.cut_negated_field (h : p.Valid) {space word : Text}
    (hsome : p.negation = some (space, word)) :
    Cut (space.reverse ++ p.beforeField) space.reverse p.field p.front.reverse where
  eq := rfl
  gap := fun c hc => (h.negation space word hsome).2.1 c (List.mem_reverse.mp hc)
  ne_nil := h.field_ne_nil
  word := h.inWord_field
  front := fun c hc => inWord_eq_false_iff.mpr (h.front c (by rwa [List.head?_reverse] at hc))

/-- **A phrase** makes its context. -/
theorem Valid.ofBehind_eq (h : p.Valid) : ofBehind p.text.reverse = p.context := by
  have hkeyword : Keyword.ofToken? (lastWord p.text.reverse).1 = some p.keyword := by
    rw [h.cut_word.lastWord_eq]
    exact Keyword.ofToken?_eq_some_iff.mpr h.word
  rw [ofBehind_of_some hkeyword, h.cut_word.lastWord_eq]
  dsimp only
  cases hneg : p.negation with
  | none =>
    rw [(h.cut_field hneg).lastWord_eq, if_neg (by rw [h.not_spells hneg]; decide), ofField,
      if_neg h.field_ne_nil, context, hneg]
    rfl
  | some negation =>
    obtain ⟨space, word⟩ := negation
    rw [(h.cut_not hneg).lastWord_eq, if_pos (h.negation space word hneg).2.2,
      (h.cut_negated_field hneg).lastWord_eq, ofField, if_neg h.field_ne_nil, context, hneg]
    rfl

/-- Where one phrase has NOT, another one of the same text has it too. -/
theorem Valid.isSome_negation (hp : p.Valid) (hq : q.Valid)
    (h : p.beforeKeyword = q.beforeKeyword) (hsome : q.negation.isSome = true) :
    p.negation.isSome = true := by
  obtain ⟨⟨space, word⟩, hsome⟩ := Option.isSome_iff_exists.mp hsome
  rw [Option.isSome_iff_ne_none]
  intro hnone
  have hcut := hq.cut_not hsome
  rw [← h] at hcut
  -- the field of the one would be the NOT of the other
  have hnot := hp.not_spells hnone
  rw [((hp.cut_field hnone).unique hcut).2.1, (hq.negation space word hsome).2.2] at hnot
  cases hnot

/-- **The parts of a phrase** are told by its text. -/
theorem Valid.eq_of_text_eq (hp : p.Valid) (hq : q.Valid) (h : p.text = q.text) : p = q := by
  have hcut := hq.cut_word
  rw [← h] at hcut
  obtain ⟨htrail, hword, hbefore⟩ := hp.cut_word.unique hcut
  have hkeyword : p.keyword = q.keyword := by
    have hp' := Keyword.ofToken?_eq_some_iff.mpr hp.word
    rw [hword, Keyword.ofToken?_eq_some_iff.mpr hq.word] at hp'
    exact (Option.some.inj hp').symm
  cases hneg : p.negation with
  | none =>
    have hneg' : q.negation = none := by
      by_contra hne
      have := hp.isSome_negation hq hbefore (Option.isSome_iff_ne_none.mpr hne)
      rw [hneg] at this
      cases this
    have hcut := hq.cut_field hneg'
    rw [← hbefore] at hcut
    obtain ⟨hgap, hfield, hfront⟩ := (hp.cut_field hneg).unique hcut
    exact Phrase.ext (List.reverse_inj.mp hfront) hfield (hneg.trans hneg'.symm)
      (List.reverse_inj.mp hgap) hkeyword hword (List.reverse_inj.mp htrail)
  | some negation =>
    obtain ⟨space, not⟩ := negation
    obtain ⟨⟨space', not'⟩, hneg'⟩ := Option.isSome_iff_exists.mp
      (hq.isSome_negation hp hbefore.symm (by rw [hneg]; rfl))
    have hcut := hq.cut_not hneg'
    rw [← hbefore] at hcut
    obtain ⟨hgap, rfl, hrest⟩ := (hp.cut_not hneg).unique hcut
    have hcut := hq.cut_negated_field hneg'
    rw [← hrest] at hcut
    obtain ⟨hspace, hfield, hfront⟩ := (hp.cut_negated_field hneg).unique hcut
    obtain rfl := List.reverse_inj.mp hspace
    exact Phrase.ext (List.reverse_inj.mp hfront) hfield (hneg.trans hneg'.symm)
      (List.reverse_inj.mp hgap) hkeyword hword (List.reverse_inj.mp htrail)

end Phrase

/-! ### Contexts -/

theorem Cut.reverse_eq {behind gap word front : Text} (h : Cut behind gap word front) :
    behind.reverse = front.reverse ++ (word ++ gap.reverse) := by
  rw [h.eq]
  simp

theorem Cut.isBlank_gap {behind gap word front : Text} (h : Cut behind gap word front) :
    ∀ c ∈ gap.reverse, isBlank c = true := fun c hc => h.gap c (List.mem_reverse.mp hc)

theorem Cut.getLast?_front {behind gap word front : Text} (h : Cut behind gap word front) :
    ∀ c ∈ front.reverse.getLast?, isBlank c = true ∨ c = '(' := by
  intro c hc
  rw [List.getLast?_reverse] at hc
  exact inWord_eq_false_iff.mp (h.front c hc)

theorem Cut.isBlank_word {behind gap word front : Text} (h : Cut behind gap word front) :
    ∀ c ∈ word, isBlank c = false ∧ c ≠ '(' := fun c hc => inWord_eq_true_iff.mp (h.word c hc)

/-- A field that is read can be cut off. -/
theorem exists_cut_of_ofField {behind : Text} {negated : Bool} {keyword : Keyword}
    (h : ofField negated keyword (lastWord behind) ≠ .scalar) :
    Cut behind (behind.takeWhile isBlank) (lastWord behind).1 (lastWord behind).2 := by
  refine exists_cut fun hnil => h ?_
  rw [ofField, if_pos hnil]

/-- A text with the context of a list ends in a phrase. -/
theorem exists_phrase {behind : Text} (h : ofBehind behind ≠ .scalar) :
    ∃ p : Phrase, p.Valid ∧ p.text = behind.reverse := by
  cases hkeyword : Keyword.ofToken? (lastWord behind).1 with
  | none => exact absurd (ofBehind_of_none hkeyword) h
  | some keyword =>
    rw [ofBehind_of_some hkeyword] at h
    have hspells := Keyword.ofToken?_eq_some_iff.mp hkeyword
    have hword := exists_cut (Phrase.ne_nil_of_spells hspells keyword.spelling_ne_nil)
    generalize (lastWord behind).1 = word at hspells hword
    generalize (lastWord behind).2 = before at h hword
    split_ifs at h with hnot
    · have hnotword := exists_cut (Phrase.ne_nil_of_spells hnot (by decide))
      generalize (lastWord before).1 = not at hnot hnotword
      generalize (lastWord before).2 = beforeNot at h hnotword
      have hfield := exists_cut_of_ofField h
      refine ⟨⟨(lastWord beforeNot).2.reverse, (lastWord beforeNot).1,
        some ((beforeNot.takeWhile isBlank).reverse, not), (before.takeWhile isBlank).reverse,
        keyword, word, (behind.takeWhile isBlank).reverse⟩, ?_, ?_⟩
      · refine ⟨hfield.getLast?_front, hfield.ne_nil, hfield.isBlank_word, nofun, ?_, ?_,
          hnotword.isBlank_gap, hspells, hword.isBlank_gap⟩
        · rintro space word' heq
          obtain ⟨rfl, rfl⟩ := Prod.mk.inj (Option.some.inj heq)
          exact ⟨by simpa using hfield.gap_ne_nil hnotword.front, hfield.isBlank_gap, hnot⟩
        · simpa using hnotword.gap_ne_nil hword.front
      · rw [hword.reverse_eq, hnotword.reverse_eq, hfield.reverse_eq]
        simp [Phrase.text, Phrase.negationText]
    · have hfield := exists_cut_of_ofField h
      refine ⟨⟨(lastWord before).2.reverse, (lastWord before).1, none,
        (before.takeWhile isBlank).reverse, keyword, word, (behind.takeWhile isBlank).reverse⟩,
        ?_, ?_⟩
      · exact ⟨hfield.getLast?_front, hfield.ne_nil, hfield.isBlank_word,
          fun _ => by simpa using hnot, nofun, by simpa using hfield.gap_ne_nil hword.front,
          hfield.isBlank_gap, hspells, hword.isBlank_gap⟩
      · rw [hword.reverse_eq, hfield.reverse_eq]
        simp [Phrase.text, Phrase.negationText]

/-- **The grammar of contexts**: at every place between two characters of a text a reference has a
context. It is that of a list exactly if the text in front of it can be cut into a phrase; there is
one way to do so, and the keyword, the word NOT, the field and the place where the field begins are
those of the phrase. -/
theorem at?_ne_scalar_iff_phrase (pre rest : Text) :
    ∃ context, Context.at? (pre ++ rest) pre.byteLength = some context ∧
      (context ≠ .scalar ↔ ∃ p : Phrase, p.Valid ∧ p.text = pre) ∧
      (∀ p q : Phrase, p.Valid → q.Valid → p.text = pre → q.text = pre → p = q) ∧
      ∀ p : Phrase, p.Valid → p.text = pre → context = p.context ∧
        ∀ front field negated, context = .likeAny front field negated →
          front.byteLength = p.front.byteLength ∧ field = p.field := by
  have hbehind : (pre ++ rest).behind? pre.byteLength = some pre.reverse :=
    Text.behind?_eq_some_iff.mpr ⟨rest, by simp, by simp⟩
  have hcontext : ∀ p : Phrase, p.Valid → p.text = pre → ofBehind pre.reverse = p.context := by
    rintro p hp rfl
    exact hp.ofBehind_eq
  refine ⟨ofBehind pre.reverse, by rw [at?, hbehind]; rfl, ⟨fun h => ?_, ?_⟩, ?_,
    fun p hp hpre => ?_⟩
  · obtain ⟨p, hp, htext⟩ := exists_phrase h
    exact ⟨p, hp, by rw [htext, List.reverse_reverse]⟩
  · rintro ⟨p, hp, hpre⟩
    rw [hcontext p hp hpre, Phrase.context]
    cases p.keyword <;> simp [ofKeyword]
  · rintro p q hp hq rfl h
    exact hp.eq_of_text_eq hq h.symm
  · refine ⟨hcontext p hp hpre, fun front field negated h => ?_⟩
    rw [hcontext p hp hpre, Phrase.context] at h
    cases hkeyword : p.keyword with
    | inList => rw [hkeyword] at h; cases h
    | likeAny =>
      rw [hkeyword] at h
      obtain ⟨rfl, rfl, -⟩ := likeAny.inj h
      exact ⟨Text.byteLength_reverse _, rfl⟩

/-- The field may be NOT if NOT follows it. -/
example : ofBehind "a NOT NOT LIKE_ANY ".toList.reverse = .likeAny [' ', 'a'] "NOT".toList true := by
  decide +kernel

end Context

end NamedSql
