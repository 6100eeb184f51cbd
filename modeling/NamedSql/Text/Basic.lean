/-! # Text and its byte offsets

A text is a list of characters. Where a position is shown to the outside it is a byte offset in
UTF-8; inside, a position is a cursor: the characters behind it, nearest first, and the characters
ahead. `behind?` turns an offset into the characters behind it, if it lies between two characters
(`behind?_eq_some_iff`), and `dropBytes` into the characters ahead, moving an offset that lies
inside a character to the end of that character. -/

namespace NamedSql

/-- A text, character by character. -/
abbrev Text := List Char

namespace Text

/-- The length in bytes of the text in UTF-8. -/
def byteLength : Text → Nat
  | [] => 0
  | c :: rest => c.utf8Size + byteLength rest

@[simp] theorem byteLength_nil : byteLength [] = 0 := rfl

@[simp] theorem byteLength_cons (c : Char) (t : Text) :
    byteLength (c :: t) = c.utf8Size + byteLength t := rfl

@[simp] theorem byteLength_append (s t : Text) :
    byteLength (s ++ t) = byteLength s + byteLength t := by
  induction s with
  | nil => simp
  | cons c s ih => simp [ih, Nat.add_assoc]

@[simp] theorem byteLength_reverse (t : Text) : byteLength t.reverse = byteLength t := by
  induction t with
  | nil => rfl
  | cons c t ih => simp [ih, Nat.add_comm]

/-- The text from byte `n` on, or from the end of the character that byte `n` lies in. -/
def dropBytes : Nat → Text → Text
  | _, [] => []
  | n, c :: rest => if n = 0 then c :: rest else dropBytes (n - c.utf8Size) rest

@[simp] theorem dropBytes_zero (t : Text) : dropBytes 0 t = t := by
  cases t <;> simp [dropBytes]

theorem dropBytes_byteLength_append (s t : Text) : dropBytes (byteLength s) (s ++ t) = t := by
  induction s with
  | nil => simp
  | cons c s ih =>
    have h : c.utf8Size + byteLength s ≠ 0 := by have := c.utf8Size_pos; omega
    rw [List.cons_append, dropBytes, byteLength_cons, if_neg h, Nat.add_sub_cancel_left, ih]

theorem exists_eq_append_dropBytes (n : Nat) (t : Text) : ∃ front, t = front ++ dropBytes n t := by
  induction t generalizing n with
  | nil => exact ⟨[], rfl⟩
  | cons c rest ih =>
    rw [dropBytes]
    split
    · exact ⟨[], rfl⟩
    · obtain ⟨front, hfront⟩ := ih (n - c.utf8Size)
      exact ⟨c :: front, by rw [List.cons_append, ← hfront]⟩

/-- Moves the cursor ahead by exactly `n` bytes, if a character ends there. -/
def advance? (behind : Text) : Nat → Text → Option Text
  | 0, _ => some behind
  | _ + 1, [] => none
  | n + 1, c :: rest =>
    if n + 1 < c.utf8Size then none else advance? (c :: behind) (n + 1 - c.utf8Size) rest

/-- The characters in front of byte `n`, nearest first, if byte `n` does not split a character. -/
def behind? (n : Nat) (t : Text) : Option Text := advance? [] n t

theorem advance?_eq_some_iff {behind t b : Text} {n : Nat} :
    advance? behind n t = some b ↔
      ∃ s r, t = s ++ r ∧ byteLength s = n ∧ b = s.reverse ++ behind := by
  induction t generalizing behind n with
  | nil =>
    cases n with
    | zero => simp [advance?, eq_comm]
    | succ n => simp [advance?]
  | cons c t ih =>
    have hc := c.utf8Size_pos
    cases n with
    | zero =>
      simp only [advance?, Option.some.injEq]
      constructor
      · rintro rfl
        exact ⟨[], c :: t, rfl, rfl, rfl⟩
      · rintro ⟨s, r, hs, hn, rfl⟩
        cases s with
        | nil => rfl
        | cons d s => simp only [byteLength_cons] at hn; have := d.utf8Size_pos; omega
    | succ n =>
      simp only [advance?]
      split
      · rename_i h
        simp only [reduceCtorEq, false_iff]
        rintro ⟨s, r, hs, hn, -⟩
        cases s with
        | nil => simp at hn
        | cons d s =>
          simp only [List.cons_append, List.cons.injEq] at hs
          simp only [byteLength_cons, ← hs.1] at hn
          omega
      · rename_i h
        rw [ih]
        constructor
        · rintro ⟨s, r, rfl, hn, rfl⟩
          exact ⟨c :: s, r, rfl, by simp only [byteLength_cons]; omega, by simp⟩
        · rintro ⟨s, r, hs, hn, rfl⟩
          cases s with
          | nil => simp at hn
          | cons d s =>
            simp only [List.cons_append, List.cons.injEq] at hs
            obtain ⟨rfl, rfl⟩ := hs
            exact ⟨s, r, rfl, by simp only [byteLength_cons] at hn; omega, by simp⟩

/-- An offset has characters behind it exactly if it is the length of a beginning of the text. -/
theorem behind?_eq_some_iff {t b : Text} {n : Nat} :
    behind? n t = some b ↔ ∃ r, t = b.reverse ++ r ∧ byteLength b = n := by
  rw [behind?, advance?_eq_some_iff]
  constructor
  · rintro ⟨s, r, rfl, hn, rfl⟩
    exact ⟨r, by simp, by simpa using hn⟩
  · rintro ⟨r, rfl, hn⟩
    exact ⟨b.reverse, r, rfl, by simpa using hn, by simp⟩

/-- The decimal numeral of a number. -/
def decimal (n : Nat) : Text := Nat.toDigits 10 n

end Text

end NamedSql
