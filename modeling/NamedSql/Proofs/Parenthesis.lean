import NamedSql.Occurrence
import NamedSql.Proofs.Rendering
import NamedSql.Proofs.Search

/-! # Texts with a parenthesis opened between them

An opening parenthesis is no part of a word or of a name, and here it is not the marker. So a scan
of `s ++ '(' :: t` finds the references of `s` and then those of `t` (`spansFrom_paren`), and the
words in front of a reference in `t` end at the parenthesis: whatever the text `s` is, it only moves
the place where a field begins (`ofBehind_paren`, `at?_paren`). The occurrences of the whole text are
therefore those of `s` and those of `t` moved behind it (`listFrom_paren`, `listFrom_onto`); only the
first one of `t` has more text in front of it, up to the last reference of `s` (`reach`). -/

namespace NamedSql

/-! ### The parenthesis ends runs of characters -/

theorem takeWhile_append_cons_of_neg {p : Char → Bool} {c : Char} (hc : p c = false) (l r : Text) :
    (l ++ c :: r).takeWhile p = l.takeWhile p := by
  induction l with
  | nil => simp [hc]
  | cons d l ih => cases h : p d <;> simp [h, ih]

theorem dropWhile_append_cons_of_neg {p : Char → Bool} {c : Char} (hc : p c = false) (l r : Text) :
    (l ++ c :: r).dropWhile p = l.dropWhile p ++ c :: r := by
  induction l with
  | nil => simp [hc]
  | cons d l ih => cases h : p d <;> simp [h, ih]

theorem isWord_paren : isWord '(' = false := by decide +kernel

theorem isBlank_paren : isBlank '(' = false := by decide +kernel

theorem inWord_paren : Context.inWord '(' = false := by decide +kernel

/-! ### Words and contexts -/

namespace Context

/-- The context of a reference that has some more text in front of everything that was read. -/
def onto (base : Text) : Context → Context
  | scalar => .scalar
  | inList negated => .inList negated
  | likeAny front field negated => .likeAny (front ++ base) field negated

/-- No word reaches across a parenthesis. -/
theorem lastWord_paren (x y : Text) :
    lastWord (x ++ '(' :: y) = ((lastWord x).1, (lastWord x).2 ++ '(' :: y) := by
  simp only [lastWord]
  rw [dropWhile_append_cons_of_neg isBlank_paren, takeWhile_append_cons_of_neg inWord_paren,
    dropWhile_append_cons_of_neg inWord_paren]

theorem onto_ofKeyword (base front field : Text) (negated : Bool) (keyword : Keyword) :
    (ofKeyword front field negated keyword).onto base =
      ofKeyword (front ++ base) field negated keyword := by
  cases keyword <;> rfl

theorem onto_ofField (base : Text) (negated : Bool) (keyword : Keyword) (field : Text × Text) :
    (ofField negated keyword field).onto base =
      ofField negated keyword (field.1, field.2 ++ base) := by
  unfold ofField
  split_ifs
  · rfl
  · exact onto_ofKeyword _ _ _ _ _

/-- **Text in front of a parenthesis** does not matter to the context of a reference after it. -/
theorem ofBehind_paren (x y : Text) : ofBehind (x ++ '(' :: y) = (ofBehind x).onto ('(' :: y) := by
  have hword := lastWord_paren x y
  cases hk : Keyword.ofToken? (lastWord x).1 with
  | none =>
    rw [ofBehind_of_none hk, ofBehind_of_none (by rw [hword, hk])]
    rfl
  | some keyword =>
    rw [ofBehind_of_some hk, ofBehind_of_some (by rw [hword, hk]), hword, lastWord_paren]
    split_ifs with hnot
    · rw [lastWord_paren, onto_ofField]
    · rw [onto_ofField]

end Context

theorem Text.advance?_append (behind s t : Text) (n : Nat) :
    advance? behind (s.byteLength + n) (s ++ t) = advance? (s.reverse ++ behind) n t := by
  induction s generalizing behind with
  | nil => simp
  | cons c s ih =>
    have hc := c.utf8Size_pos
    obtain ⟨k, hk⟩ : ∃ k, c.utf8Size + byteLength s + n = k + 1 :=
      ⟨c.utf8Size + byteLength s + n - 1, by omega⟩
    have hrest : k + 1 - c.utf8Size = byteLength s + n := by omega
    rw [byteLength_cons, hk, List.cons_append, advance?, if_neg (by omega), hrest, ih]
    simp

theorem Text.advance?_behind (behind base : Text) (n : Nat) (t : Text) :
    advance? (behind ++ base) n t = (advance? behind n t).map (· ++ base) := by
  induction t generalizing behind n with
  | nil => cases n <;> rfl
  | cons c t ih =>
    cases n with
    | zero => rfl
    | succ n =>
      rw [advance?, advance?]
      split_ifs
      · rfl
      · exact ih (c :: behind) _

/-- What lies behind an offset of the second text lies behind it in the whole one, and behind that
the first text and the parenthesis. -/
theorem Text.behind?_paren (s t : Text) (offset : Nat) :
    (s ++ '(' :: t).behind? (s.byteLength + 1 + offset) =
      (t.behind? offset).map (· ++ '(' :: s.reverse) := by
  have hsplit : s ++ '(' :: t = (s ++ ['(']) ++ t := by simp
  have hlength : (s ++ ['(']).byteLength = s.byteLength + 1 := by
    rw [byteLength_append]
    rfl
  have hbase : (s ++ ['(']).reverse ++ [] = [] ++ '(' :: s.reverse := by simp
  rw [behind?, behind?, hsplit, ← hlength, advance?_append, hbase, advance?_behind]

/-- The context at an offset behind the parenthesis is the one in the second text. -/
theorem Context.at?_paren (s t : Text) (offset : Nat) :
    Context.at? (s ++ '(' :: t) (s.byteLength + 1 + offset) =
      (Context.at? t offset).map (onto ('(' :: s.reverse)) := by
  rw [at?, at?, Text.behind?_paren, Option.map_map, Option.map_map]
  refine congrArg (fun f => Option.map f _) (funext fun behind => ?_)
  exact ofBehind_paren behind s.reverse

/-! ### References -/

namespace Reference

variable {marker : Char}

/-- The first reference of the whole text is that of the first text, or else that of the second. -/
theorem firstAfter?_paren (hm : marker ≠ '(') (afterMarker : Bool) (s t : Text) :
    firstAfter? marker afterMarker (s ++ '(' :: t) =
      match firstAfter? marker afterMarker s with
      | some r => some { r with tail := r.tail ++ '(' :: t }
      | none =>
        (firstAfter? marker false t).map fun r => { r with lead := s ++ '(' :: r.lead } := by
  induction s generalizing afterMarker with
  | nil =>
    have hc : ('(' == marker) = false := beq_false_of_ne (Ne.symm hm)
    rw [List.nil_append]
    simp only [firstAfter?, Ne.symm hm, false_and, if_false, hc]
    rfl
  | cons c s ih =>
    have hhead : (s ++ '(' :: t).head? ≠ some marker ↔ s.head? ≠ some marker := by
      cases s with
      | nil => simp [Ne.symm hm]
      | cons d s => rfl
    rw [List.cons_append, firstAfter?, firstAfter?, takeWhile_append_cons_of_neg isWord_paren,
      dropWhile_append_cons_of_neg isWord_paren, ih]
    simp only [hhead]
    split_ifs
    · rfl
    · cases firstAfter? marker (c == marker) s with
      | some r => rfl
      | none => cases firstAfter? marker false t <;> rfl

theorem first?_paren_of_some (hm : marker ≠ '(') {s : Text} {r : Reference}
    (h : first? marker s = some r) (t : Text) :
    first? marker (s ++ '(' :: t) = some { r with tail := r.tail ++ '(' :: t } := by
  rw [first?_eq_firstAfter?] at h ⊢
  rw [firstAfter?_paren hm, h]

theorem first?_paren_of_none (hm : marker ≠ '(') {s : Text} (h : first? marker s = none)
    (t : Text) : first? marker (s ++ '(' :: t) =
      (first? marker t).map fun r => { r with lead := s ++ '(' :: r.lead } := by
  rw [first?_eq_firstAfter?] at h ⊢
  rw [firstAfter?_paren hm, h, first?_eq_firstAfter?]

/-- **The references of the whole text** are those of the first text and then those of the
second. -/
theorem spansFrom_paren (hm : marker ≠ '(') (offset : Nat) (s t : Text) :
    spansFrom marker offset (s ++ '(' :: t) =
      spansFrom marker offset s ++ spansFrom marker (offset + s.byteLength + 1) t := by
  induction s using scan_induction marker generalizing offset with
  | some s r hr ih =>
    have hlength := congrArg Text.byteLength (eq_of_first? hr)
    rw [spansFrom_of_some (first?_paren_of_some hm hr t), spansFrom_of_some hr,
      ih, List.cons_append, hlength]
    simp only [Span.ofBefore, Text.byteLength_append, Text.byteLength_cons, Nat.add_assoc]
  | none s hr =>
    rw [spansFrom_of_none hr, List.nil_append]
    cases ht : first? marker t with
    | none =>
      rw [spansFrom_of_none ht, spansFrom_of_none]
      rw [first?_paren_of_none hm hr, ht]
      rfl
    | some r =>
      have hwhole := first?_paren_of_none hm hr t
      rw [ht, Option.map_some] at hwhole
      have hlead : offset + (s ++ '(' :: r.lead).byteLength =
          offset + s.byteLength + 1 + r.lead.byteLength := by
        rw [Text.byteLength_append, Text.byteLength_cons, show '('.utf8Size = 1 from rfl]
        omega
      rw [spansFrom_of_some hwhole, spansFrom_of_some ht]
      simp only [Span.ofBefore, hlead]

end Reference

/-! ### Occurrences -/

namespace Occurrence

/-- The occurrence with some more text in front of everything. -/
def onto (base : Text) (o : Occurrence) : Occurrence :=
  ⟨o.behind ++ base, o.previous + base.length, o.name⟩

theorem listFrom_onto (marker : Char) (base behind ahead : Text) :
    listFrom marker (behind ++ base) ahead =
      ((listFrom marker behind ahead).1.map (onto base), (listFrom marker behind ahead).2) := by
  induction ahead using Reference.scan_induction marker generalizing behind with
  | none ahead hr =>
    rw [listFrom_of_none hr, listFrom_of_none hr]
    rfl
  | some ahead r hr ih =>
    have hlater := ih (r.name.reverse ++ marker :: (r.lead.reverse ++ behind))
    rw [List.append_assoc, List.cons_append, List.append_assoc] at hlater
    rw [listFrom_of_some hr, listFrom_of_some hr, hlater]
    simp [onto]

/-- Occurrences of which the first has more text between it and the end of the previous one. -/
def reach (gap : Text) : List Occurrence × Text → List Occurrence × Text
  | ([], rest) => ([], gap ++ rest)
  | (o :: later, rest) => ({ o with previous := o.previous - gap.length } :: later, rest)

/-- **The occurrences of the whole text** are those of the first text and then those of the second,
of which the first reaches back to the last one of the first text. -/
theorem listFrom_paren {marker : Char} (hm : marker ≠ '(') (behind s t : Text) :
    listFrom marker behind (s ++ '(' :: t) =
      let second := reach ((listFrom marker behind s).2 ++ ['('])
        (listFrom marker ('(' :: (s.reverse ++ behind)) t)
      ((listFrom marker behind s).1 ++ second.1, second.2) := by
  induction s using Reference.scan_induction marker generalizing behind with
  | some s r hr ih =>
    have hbase : r.tail.reverse ++ (r.name.reverse ++ marker :: (r.lead.reverse ++ behind)) =
        s.reverse ++ behind := by
      rw [Reference.eq_of_first? hr]
      simp
    rw [listFrom_of_some (Reference.first?_paren_of_some hm hr t), listFrom_of_some hr,
      ih, hbase]
    rfl
  | none s hr =>
    have hwhole := Reference.first?_paren_of_none hm hr t
    rw [listFrom_of_none hr]
    cases ht : Reference.first? marker t with
    | none =>
      rw [ht] at hwhole
      rw [listFrom_of_none hwhole, listFrom_of_none ht]
      simp [reach]
    | some r =>
      rw [ht] at hwhole
      rw [listFrom_of_some hwhole, listFrom_of_some ht]
      simp [reach]

end Occurrence

/-- The occurrences of the whole text, where `c` is the first text up to the end of its last
reference, nearest character first. -/
theorem exists_occurrences_paren {marker : Char} (hm : marker ≠ '(') (s t : Text) :
    ∃ c, occurrences marker (s ++ '(' :: t) =
      let second := Occurrence.reach ((occurrences marker s).2 ++ ['('])
        ((occurrences marker t).1.map
          (Occurrence.onto ('(' :: ((occurrences marker s).2.reverse ++ c))),
          (occurrences marker t).2)
      ((occurrences marker s).1 ++ second.1, second.2) := by
  obtain ⟨c, hc⟩ := Occurrence.exists_append_listFrom marker [] s
  have hbase : s.reverse = (Occurrence.listFrom marker [] s).2.reverse ++ c.reverse := by
    rw [← List.reverse_append, ← hc]
  have hwhole := Occurrence.listFrom_paren hm [] s t
  rw [List.append_nil, ← List.nil_append ('(' :: s.reverse), Occurrence.listFrom_onto,
    hbase] at hwhole
  exact ⟨c.reverse, hwhole⟩

end NamedSql
