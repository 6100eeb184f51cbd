import NamedSql.Proofs.Seam

/-! # The field in front of LIKE_ANY

The field that a context gives lies in the text behind the reference: it is a whole word, with white
space on the side of the reference, and with the start of the text, white space or a parenthesis on
the other side (`exists_of_ofBehind_eq_likeAny`). Between it and the reference there are keywords and
white space, so a character that neither of them holds is in the field or in the text in front of it
(`count_of_ofBehind_eq_likeAny`). -/

namespace NamedSql

namespace Context

theorem not_inWord_head_dropWhile (t : Text) :
    ∀ c ∈ (t.dropWhile inWord).head?, inWord c = false := by
  intro c hc
  have h := List.head?_dropWhile_not inWord t
  rw [hc] at h
  simpa using h

/-- White space, a word, and behind it no character of a word. -/
theorem exists_of_lastWord {behind : Text} (hhead : ∀ c ∈ behind.head?, inWord c = false)
    (hword : (lastWord behind).1 ≠ []) :
    ∃ gap c, behind = gap ++ c :: ((lastWord behind).1.reverse ++ (lastWord behind).2) ∧
      isBlank c = true := by
  have heq := eq_of_lastWord behind
  have hgap : behind.takeWhile isBlank ≠ [] := by
    intro hnil
    rw [hnil, List.nil_append] at heq
    obtain ⟨c, w, hw⟩ := List.exists_cons_of_ne_nil
      (show (lastWord behind).1.reverse ≠ [] by simpa using hword)
    have h1 := hhead c (by rw [heq, hw]; rfl)
    have hmem : c ∈ (lastWord behind).1 := by
      rw [← List.mem_reverse, hw]
      exact List.mem_cons_self
    have h2 : inWord c = true := inWord_of_mem_lastWord hmem
    rw [h1] at h2
    exact absurd h2 (by simp)
  refine ⟨(behind.takeWhile isBlank).dropLast, (behind.takeWhile isBlank).getLast hgap, ?_, ?_⟩
  · rw [List.append_cons, List.dropLast_concat_getLast]
    exact heq
  · exact List.mem_takeWhile_imp (List.getLast_mem hgap)

theorem lastWord_snd (behind : Text) : ∀ c ∈ (lastWord behind).2.head?, inWord c = false :=
  not_inWord_head_dropWhile _

theorem exists_of_ofField_eq_likeAny {behind front field : Text} {negated negated' : Bool}
    {keyword : Keyword} (hhead : ∀ c ∈ behind.head?, inWord c = false)
    (h : ofField negated keyword (lastWord behind) = .likeAny front field negated') :
    ∃ gap c, behind = gap ++ c :: (field.reverse ++ front) ∧ isBlank c = true ∧
      (∀ d ∈ field, inWord d = true) ∧ ∀ d ∈ front.head?, inWord d = false := by
  unfold ofField at h
  split_ifs at h with hne
  cases keyword with
  | inList => cases h
  | likeAny =>
    obtain ⟨rfl, rfl, -⟩ := likeAny.inj h
    obtain ⟨gap, c, heq, hc⟩ := exists_of_lastWord hhead hne
    exact ⟨gap, c, heq, hc, fun d => inWord_of_mem_lastWord, lastWord_snd behind⟩

/-- **The field** is a whole word, with white space on the side of the reference. -/
theorem exists_of_ofBehind_eq_likeAny {behind front field : Text} {negated : Bool}
    (h : ofBehind behind = .likeAny front field negated) :
    ∃ gap c, behind = gap ++ c :: (field.reverse ++ front) ∧ isBlank c = true ∧
      (∀ d ∈ field, inWord d = true) ∧ ∀ d ∈ front.head?, inWord d = false := by
  cases hk : Keyword.ofToken? (lastWord behind).1 with
  | none => rw [ofBehind_of_none hk] at h; cases h
  | some keyword =>
    rw [ofBehind_of_some hk] at h
    obtain ⟨near, heq⟩ : ∃ near, behind = near ++ (lastWord behind).2 :=
      ⟨_, (eq_of_lastWord behind).trans (List.append_assoc ..).symm⟩
    have hhead := lastWord_snd behind
    generalize (lastWord behind).2 = before at h heq hhead
    split_ifs at h with hnot
    · have hword : (lastWord before).1 ≠ [] := by
        intro hnil
        rw [hnil] at hnot
        exact absurd hnot (by decide)
      obtain ⟨gap1, c1, heq1, -⟩ := exists_of_lastWord hhead hword
      have hhead1 := lastWord_snd before
      generalize (lastWord before).1 = word at heq1
      generalize (lastWord before).2 = before1 at h heq1 hhead1
      obtain ⟨gap2, c, heq2, hc, hfield, hfront⟩ := exists_of_ofField_eq_likeAny hhead1 h
      refine ⟨near ++ (gap1 ++ c1 :: (word.reverse ++ gap2)), c, ?_, hc, hfield, hfront⟩
      rw [heq, heq1, heq2]
      simp only [List.append_assoc, List.cons_append]
    · obtain ⟨gap, c, heq1, hc, hfield, hfront⟩ := exists_of_ofField_eq_likeAny hhead h
      refine ⟨near ++ gap, c, ?_, hc, hfield, hfront⟩
      rw [heq, heq1, List.append_assoc]

/-! ### What lies between the field and the reference -/

/-- Beside the last word only white space is skipped. -/
theorem count_eq_add_count_lastWord {x : Char} (hx : isBlank x = false) (behind : Text) :
    behind.count x = (lastWord behind).1.count x + (lastWord behind).2.count x := by
  have hblank : (behind.takeWhile isBlank).count x = 0 := by
    refine List.count_eq_zero.mpr fun hmem => ?_
    rw [List.mem_takeWhile_imp hmem] at hx
    cases hx
  have hcount := congrArg (List.count x) (eq_of_lastWord behind)
  rwa [List.count_append, List.count_append, List.count_reverse, hblank, Nat.zero_add] at hcount

theorem count_lastWord_snd {x : Char} (hx : isBlank x = false) {behind : Text}
    (h : x ∉ (lastWord behind).1) : (lastWord behind).2.count x = behind.count x := by
  rw [count_eq_add_count_lastWord hx behind, List.count_eq_zero.mpr h, Nat.zero_add]

theorem count_of_ofField_eq_likeAny {x : Char} (hx : isBlank x = false)
    {behind front field : Text} {negated negated' : Bool} {keyword : Keyword}
    (h : ofField negated keyword (lastWord behind) = .likeAny front field negated') :
    behind.count x = field.count x + front.count x := by
  unfold ofField at h
  split_ifs at h
  cases keyword with
  | inList => cases h
  | likeAny =>
    obtain ⟨rfl, rfl, -⟩ := likeAny.inj h
    exact count_eq_add_count_lastWord hx behind

/-- Between the field and the reference there is white space and keywords, nothing else. -/
theorem count_of_ofBehind_eq_likeAny {x : Char} (hx : isBlank x = false) (hspell : Unspelled x)
    {behind front field : Text} {negated : Bool}
    (h : ofBehind behind = .likeAny front field negated) :
    behind.count x = field.count x + front.count x := by
  cases hk : Keyword.ofToken? (lastWord behind).1 with
  | none => rw [ofBehind_of_none hk] at h; cases h
  | some keyword =>
    have hword : x ∉ (lastWord behind).1 := by
      intro hmem
      rw [ofToken?_eq_none hspell hmem] at hk
      cases hk
    rw [ofBehind_of_some hk] at h
    rw [← count_lastWord_snd hx hword]
    generalize (lastWord behind).2 = before at h ⊢
    split_ifs at h with hnot
    · have hword : x ∉ (lastWord before).1 := by
        intro hmem
        rw [spells_not_eq_false hspell hmem] at hnot
        cases hnot
      rw [← count_lastWord_snd hx hword]
      exact count_of_ofField_eq_likeAny hx h
    · exact count_of_ofField_eq_likeAny hx h

end Context

end NamedSql
