import NamedSql.Proofs.Offsets
import NamedSql.Token

/-! # Words that reach behind the cursor

What is written for a reference ends in a placeholder, or in a placeholder and a parenthesis, and
nothing that ends a word comes after the placeholder. So a word that begins behind the cursor and is
read from ahead of it holds a placeholder (`suffix_or_mem_lastWord`). A keyword and NOT hold none, so
they begin at the cursor or ahead of it; and then the field does, or it holds one
(`suffix_front_or_mem`).

A step that refuses fields with a placeholder therefore need not ask where a field begins, and a
field that is not refused is a part of the template (`readsTemplate_of_reaches`). -/

namespace NamedSql

open Context (SealedBy)

/-! ### Words by their offsets -/

theorem Text.behind?_of_suffix {t behind front : Text} {n : Nat} (h : t.behind? n = some behind)
    (hfront : front <:+ behind) : t.behind? front.byteLength = some front := by
  obtain ⟨rest, rfl, -⟩ := behind?_eq_some_iff.mp h
  obtain ⟨near, rfl⟩ := hfront
  exact behind?_eq_some_iff.mpr ⟨near.reverse ++ rest, by simp, rfl⟩

namespace Context

theorem suffix_lastWord (behind : Text) : (lastWord behind).2 <:+ behind :=
  (List.dropWhile_suffix _).trans (List.dropWhile_suffix _)

theorem at?_of_behind? {text behind : Text} {n : Nat} (h : text.behind? n = some behind) :
    at? text n = some (ofBehind behind) := by
  rw [at?, h]
  rfl

theorem before?_of_behind? {text behind : Text} {n : Nat} (h : text.behind? n = some behind) :
    Token.before? text n = some ⟨(lastWord behind).2.byteLength, (lastWord behind).1⟩ := by
  rw [Token.before?, h]
  rfl

/-- What is behind a word is what lies in front of the byte at which it starts. -/
theorem behind?_lastWord {text behind : Text} {n : Nat} (h : text.behind? n = some behind) :
    text.behind? (lastWord behind).2.byteLength = some (lastWord behind).2 :=
  Text.behind?_of_suffix h (suffix_lastWord behind)

/-- **Reading word by word** at the offsets of a text gives the context of the characters behind. -/
theorem read?_eq_at? (text : Text) (offset : Nat) : read? text offset = at? text offset := by
  cases hbehind : text.behind? offset with
  | none => rw [read?, Token.before?, at?, hbehind]; rfl
  | some behind =>
    have hword := behind?_lastWord hbehind
    have hlast := behind?_lastWord hword
    rw [read?, before?_of_behind? hbehind, at?, hbehind]
    simp only [Option.bind_eq_bind, Option.bind_some, Option.map_some]
    cases hk : Keyword.ofToken? (lastWord behind).1 with
    | none => rw [ofBehind_of_none hk]; rfl
    | some keyword =>
      rw [ofBehind_of_some hk]
      dsimp only
      rw [before?_of_behind? hword, Option.bind_some]
      dsimp only
      cases hnot : spells "NOT".toList (lastWord (lastWord behind).2).1 with
      | true =>
        rw [if_pos rfl, if_pos rfl, before?_of_behind? hlast, Option.bind_some,
          behind?_lastWord hlast]
        rfl
      | false =>
        rw [if_neg Bool.false_ne_true, if_neg Bool.false_ne_true, hlast]
        rfl

/-! ### Words across a seam -/

theorem not_mem_of_ofToken? {x : Char} (hx : Unspelled x) {token : Text} {keyword : Keyword}
    (h : Keyword.ofToken? token = some keyword) : x ∉ token := by
  intro hmem
  rw [ofToken?_eq_none hx hmem] at h
  cases h

theorem not_mem_of_spells_not {x : Char} (hx : Unspelled x) {token : Text}
    (h : spells "NOT".toList token = true) : x ∉ token := by
  intro hmem
  rw [spells_not_eq_false hx hmem] at h
  cases h

section

variable {x : Char} {b behind : Text} (hb : b = [] ∨ SealedBy x b) (hs : b <:+ behind)
include hb hs

/-- **A word** begins in front of the seam, or it reaches across and holds `x`. -/
theorem suffix_or_mem_lastWord : b <:+ (lastWord behind).2 ∨ x ∈ (lastWord behind).1 := by
  obtain ⟨l, rfl⟩ := hs
  rcases hb with rfl | hb
  · exact Or.inl (List.nil_suffix)
  · by_cases hl : (lastWord l).2 = []
    · exact Or.inr (lastWord_append_of_eq_nil hl hb).1
    · rw [lastWord_append_of_ne_nil hl]
      exact Or.inl (List.suffix_append _ _)

theorem suffix_of_not_mem_lastWord (h : x ∉ (lastWord behind).1) : b <:+ (lastWord behind).2 :=
  (suffix_or_mem_lastWord hb hs).resolve_right h

theorem suffix_front_or_mem_of_ofField {front field : Text} {negated negated' : Bool}
    {keyword : Keyword}
    (h : ofField negated keyword (lastWord behind) = .likeAny front field negated') :
    b <:+ front ∨ x ∈ field := by
  unfold ofField at h
  split_ifs at h
  cases keyword with
  | inList => cases h
  | likeAny =>
    obtain ⟨rfl, rfl, -⟩ := likeAny.inj h
    exact suffix_or_mem_lastWord hb hs

/-- **The field** begins in front of the seam, or it holds `x`: neither the keyword nor NOT reaches
across. -/
theorem suffix_front_or_mem (hx : Unspelled x) {front field : Text} {negated : Bool}
    (h : ofBehind behind = .likeAny front field negated) : b <:+ front ∨ x ∈ field := by
  cases hk : Keyword.ofToken? (lastWord behind).1 with
  | none => rw [ofBehind_of_none hk] at h; cases h
  | some keyword =>
    have hkeyword := suffix_of_not_mem_lastWord hb hs (not_mem_of_ofToken? hx hk)
    rw [ofBehind_of_some hk] at h
    split_ifs at h with hnot
    · have hlast := suffix_of_not_mem_lastWord hb hkeyword (not_mem_of_spells_not hx hnot)
      exact suffix_front_or_mem_of_ofField hb hlast h
    · exact suffix_front_or_mem_of_ofField hb hkeyword h

end

/-- A field that begins in front of the seam is a part of what lies there. -/
theorem exists_eq_append_field {lead b front field : Text} {negated : Bool}
    (h : ofBehind (lead.reverse ++ b) = .likeAny front field negated) (hfront : b <:+ front) :
    ∃ before gap, lead = before ++ (field ++ gap) ∧ front = before.reverse ++ b := by
  obtain ⟨gap, c, heq, -⟩ := exists_of_ofBehind_eq_likeAny h
  obtain ⟨near, rfl⟩ := hfront
  have hlead : lead.reverse = gap ++ c :: (field.reverse ++ near) := by
    refine (List.append_left_inj b).mp (heq.trans ?_)
    simp
  refine ⟨near.reverse, c :: gap.reverse, ?_, by simp⟩
  rw [← List.reverse_reverse lead, hlead]
  simp

/-! ### The same at offsets -/

section

variable {x : Char} {b text behind : Text} {n : Nat} (hb : b = [] ∨ SealedBy x b)
  (hs : b <:+ behind) (hbehind : text.behind? n = some behind)
include hb hs hbehind

theorem byteLength_le_start {token : Token} (h : Token.before? text n = some token)
    (hword : x ∉ token.word) : b.byteLength ≤ token.start := by
  rw [before?_of_behind? hbehind] at h
  cases h
  exact Text.byteLength_le_of_suffix (suffix_of_not_mem_lastWord hb hs hword)

/-- The words in front of a reference that are keywords start at the seam or ahead of it. -/
theorem byteLength_le_start_of_keywords (hx : Unspelled x) {token : Token} {keyword : Keyword}
    (h : Token.before? text n = some token) (hkeyword : Keyword.ofToken? token.word = some keyword) :
    b.byteLength ≤ token.start ∧ ∀ last, Token.before? text token.start = some last →
      spells "NOT".toList last.word = true → b.byteLength ≤ last.start := by
  have hword := not_mem_of_ofToken? hx hkeyword
  refine ⟨byteLength_le_start hb hs hbehind h hword, fun last hlast hnot => ?_⟩
  rw [before?_of_behind? hbehind] at h
  cases h
  exact byteLength_le_start hb (suffix_of_not_mem_lastWord hb hs hword) (behind?_lastWord hbehind)
    hlast (not_mem_of_spells_not hx hnot)

theorem suffix_front_or_mem_of_at? (hx : Unspelled x) {front field : Text} {negated : Bool}
    (h : at? text n = some (.likeAny front field negated)) : b <:+ front ∨ x ∈ field := by
  rw [at?, hbehind] at h
  exact suffix_front_or_mem hb hs hx (Option.some.inj h)

theorem mem_field_of_byteLength_lt (hx : Unspelled x) {front field : Text} {negated : Bool}
    (h : at? text n = some (.likeAny front field negated))
    (hlt : front.byteLength < b.byteLength) : x ∈ field :=
  (suffix_front_or_mem_of_at? hb hs hbehind hx h).resolve_left fun hsuffix =>
    Nat.not_lt.mpr (Text.byteLength_le_of_suffix hsuffix) hlt

end

end Context

/-! ### Runs -/

namespace Dialect

variable {dialect : Dialect} {capacities : Dict Nat}

/-- What lies behind the cursor was written for a reference, if there is anything. -/
theorem sealedBy_of_reaches {text : Text} {draft : Draft}
    (h : dialect.Reaches capacities (.ofText text) draft) :
    draft.behind = [] ∨ SealedBy Expansion.placeholder draft.behind := by
  cases h with
  | refl => exact Or.inl rfl
  | step _ hstep =>
    obtain ⟨r, -, -, hexpands⟩ := exists_of_step? hstep
    exact Or.inr hexpands.sealedBy

theorem suffix_ahead_of_reaches {first last : Draft} (h : dialect.Reaches capacities first last) :
    last.ahead <:+ first.ahead := by
  induction h with
  | refl => exact List.suffix_refl _
  | step _ hstep ih => exact (Buffer.suffix_ahead_of_step? hstep).1.trans ih

theorem capacityOf_ne_placeholderInField (dialect : Dialect) (capacities : Dict Nat)
    (name : Text) : dialect.capacityOf capacities name ≠ .error (.placeholderInField name) := by
  unfold capacityOf
  split <;> simp

/-- Where fields that begin behind the cursor hold a placeholder, the place of the cursor does not
matter. -/
theorem edit_eq_edit_zero {cursor : Nat} {context : Context}
    (h : ∀ front field negated, context = .likeAny front field negated →
      front.byteLength < cursor → Expansion.placeholder ∈ field) (span : Reference.Span) :
    dialect.edit capacities cursor span context = dialect.edit capacities 0 span context := by
  cases context with
  | scalar => rfl
  | inList negated => rfl
  | likeAny front field negated =>
    have htest : front.byteLength < cursor ∨ Expansion.placeholder ∈ field ↔
        front.byteLength < 0 ∨ Expansion.placeholder ∈ field := by
      simp only [Nat.not_lt_zero, false_or]
      exact or_iff_right_of_imp (h front field negated rfl)
    unfold edit
    simp only [htest]

theorem edit_zero_eq_error_iff {span : Reference.Span} {front field : Text} {negated : Bool} :
    dialect.edit capacities 0 span (.likeAny front field negated) =
        .error (.placeholderInField span.name) ↔ Expansion.placeholder ∈ field := by
  have hcapacity := dialect.capacityOf_ne_placeholderInField capacities span.name
  unfold edit
  simp only [Nat.not_lt_zero, false_or]
  split_ifs with hmem
  · exact iff_of_true rfl hmem
  · refine iff_of_false (fun heq => ?_) hmem
    cases hcap : dialect.capacityOf capacities span.name with
    | error e =>
      rw [hcap] at heq hcapacity
      injection heq with he
      exact hcapacity (congrArg Except.error he)
    | ok capacity =>
      rw [hcap] at heq
      cases heq

end Dialect

namespace Buffer

variable {dialect : Dialect} {capacities : Dict Nat}

/-- The steps of a buffer are steps of a draft. -/
theorem exists_reaches {first : Draft} {n : Nat} {buffer : Buffer}
    (h : Reaches dialect capacities (ofDraft first) n buffer) :
    ∃ draft, buffer = ofDraft draft ∧ dialect.Reaches capacities first draft := by
  induction h with
  | refl => exact ⟨first, rfl, .refl⟩
  | step _ hstep ih =>
    obtain ⟨draft, rfl, hreaches⟩ := ih
    obtain ⟨visit, next, hnext, rfl⟩ := exists_of_step_eq_next hstep
    exact ⟨next, rfl, hreaches.step hnext⟩

/-- What is read for a reference is read from the template, unless a field shows that it is not. -/
structure ReadsTemplate (dialect : Dialect) (capacities : Dict Nat) (template : Text)
    (buffer : Buffer) (span : Reference.Span) : Prop where
  /-- The reference has a context, which is read word by word. -/
  context : ∃ context, Context.at? buffer.text span.start = some context ∧
    Context.read? buffer.text span.start = some context
  /-- The keyword does not begin in front of the cursor. -/
  keyword : ∀ token spelled, Token.before? buffer.text span.start = some token →
    Keyword.ofToken? token.word = some spelled → buffer.cursor ≤ token.start
  /-- Nor does NOT in front of the keyword. -/
  negation : ∀ token spelled last, Token.before? buffer.text span.start = some token →
    Keyword.ofToken? token.word = some spelled →
      Token.before? buffer.text token.start = some last →
        spells "NOT".toList last.word = true → buffer.cursor ≤ last.start
  /-- A field that begins in front of the cursor holds a placeholder. -/
  field : ∀ front field negated,
    Context.at? buffer.text span.start = some (.likeAny front field negated) →
      front.byteLength < buffer.cursor → Expansion.placeholder ∈ field
  /-- Whether a field is refused is told by its placeholders alone. -/
  refused : ∀ front field negated,
    Context.at? buffer.text span.start = some (.likeAny front field negated) →
      (dialect.edit capacities buffer.cursor span (.likeAny front field negated) =
        .error (.placeholderInField span.name) ↔ Expansion.placeholder ∈ field)
  /-- The edit is the one that no test of the place of the field would lead to. -/
  edit : ∀ context, Context.at? buffer.text span.start = some context →
    dialect.edit capacities buffer.cursor span context = dialect.edit capacities 0 span context
  /-- A field that is not refused stands in the template, with the same text after it. -/
  verbatim : ∀ front field negated,
    Context.at? buffer.text span.start = some (.likeAny front field negated) →
      Expansion.placeholder ∉ field → ∃ before after,
        buffer.text = front.reverse ++ (field ++ after) ∧ template = before ++ (field ++ after)

/-- A field that shows no placeholder is a part of the template. -/
theorem exists_verbatim {template : Text} {draft : Draft} {r : Reference}
    (hahead : draft.ahead <:+ template)
    (htext : draft.text =
      (r.lead.reverse ++ draft.behind).reverse ++ (dialect.marker :: r.name ++ r.tail))
    {front field : Text} {negated : Bool}
    (h : Context.ofBehind (r.lead.reverse ++ draft.behind) = .likeAny front field negated)
    (hfront : draft.behind <:+ front) :
    ∃ before after,
      draft.text = front.reverse ++ (field ++ after) ∧ template = before ++ (field ++ after) := by
  obtain ⟨before, gap, hlead, rfl⟩ := Context.exists_eq_append_field h hfront
  obtain ⟨earlier, rfl⟩ := hahead
  have hrest : draft.ahead = r.lead ++ (dialect.marker :: r.name ++ r.tail) := by
    refine (List.append_right_inj draft.behind.reverse).mp ?_
    rw [← Draft.text, htext]
    simp
  refine ⟨earlier ++ before, gap ++ (dialect.marker :: r.name ++ r.tail), ?_, ?_⟩
  · rw [htext, hlead]
    simp
  · rw [hrest, hlead]
    simp

/-- **A word that reaches behind the cursor shows a placeholder.** Whatever the template and the
capacities, at each step the keyword and NOT are read from the template alone, and so is the field
unless it holds a placeholder. Which fields are refused is therefore told by their placeholders, and
those that are not are parts of the template. -/
theorem readsTemplate_of_reaches (dialect : Dialect) (capacities : Dict Nat) (text : Text) {n : Nat}
    {buffer : Buffer} (h : Reaches dialect capacities (.ofText text) n buffer)
    {span : Reference.Span} {later : List Reference.Span}
    (hspans : Reference.spans? dialect.marker buffer.text buffer.cursor = some (span :: later)) :
    ReadsTemplate dialect capacities text buffer span := by
  have hfirst : ofText text = ofDraft (.ofText text) := rfl
  rw [hfirst] at h
  obtain ⟨draft, rfl, hreaches⟩ := exists_reaches h
  obtain ⟨r, htext, hspan⟩ := exists_of_spans?_ofDraft hspans
  have hb := Dialect.sealedBy_of_reaches hreaches
  have hs : draft.behind <:+ r.lead.reverse ++ draft.behind := List.suffix_append _ _
  have hx := unspelled_placeholder
  have hbehind : draft.text.behind? span.start = some (r.lead.reverse ++ draft.behind) := by
    rw [hspan, htext, ← Text.byteLength_reverse, Text.behind?_append, List.reverse_reverse]
  have hat := Context.at?_of_behind? hbehind
  have hfield := fun front field negated =>
    @Context.mem_field_of_byteLength_lt _ _ _ _ _ hb hs hbehind hx front field negated
  have hedit : ∀ context, Context.at? draft.text span.start = some context →
      dialect.edit capacities draft.behind.byteLength span context =
        dialect.edit capacities 0 span context := fun context h =>
    Dialect.edit_eq_edit_zero (fun front field negated heq =>
      hfield front field negated (h.trans (congrArg some heq))) span
  refine ⟨⟨_, hat, (Context.read?_eq_at? _ _).trans hat⟩, fun token spelled htoken hspelled => ?_,
    fun token spelled last htoken hspelled => ?_, hfield, fun front field negated h => ?_, hedit,
    fun front field negated h hmem => ?_⟩
  · exact (Context.byteLength_le_start_of_keywords hb hs hbehind hx htoken hspelled).1
  · exact (Context.byteLength_le_start_of_keywords hb hs hbehind hx htoken hspelled).2 last
  · rw [ofDraft, hedit _ h]
    exact Dialect.edit_zero_eq_error_iff
  · have hfront := (Context.suffix_front_or_mem_of_at? hb hs hbehind hx h).resolve_right hmem
    exact exists_verbatim (Dialect.suffix_ahead_of_reaches hreaches) htext
      (Option.some.inj (hat.symm.trans h)) hfront

/-- A field with a parenthesis and a letter of the template behind it reaches into a group. -/
theorem readsTemplate_across_group :
    let dialect : Dialect := ⟨⟨'¤', 2⟩, by decide +kernel, by decide⟩
    let text := "é IN ¤x)ü NOT like_any ¤k".toList
    let front : Text := "é IN (?, ".toList.reverse
    let buffer : Buffer := ⟨"é IN (?, ?))ü NOT like_any ¤k".toList, 12,
      ⟨2, [⟨['x'], .list 2, false⟩], [("x__0".toList, [1]), ("x__1".toList, [2])]⟩⟩
    let span : Reference.Span := ⟨29, 32, ['k']⟩
    Reaches dialect .empty (.ofText text) 1 buffer ∧
      Reference.spans? dialect.marker buffer.text buffer.cursor = some [span] ∧
      buffer.ReadsTemplate dialect .empty text span ∧
      Context.at? buffer.text span.start = some (.likeAny front "?))ü".toList true) ∧
      front.byteLength < buffer.cursor := by
  intro dialect text front buffer span
  have hstep : (ofText text).step dialect .empty = .next buffer := by decide +kernel
  have hreaches : Reaches dialect .empty (.ofText text) 1 buffer := Reaches.refl.step hstep
  have hspans : Reference.spans? dialect.marker buffer.text buffer.cursor = some [span] := by
    decide +kernel
  exact ⟨hreaches, hspans, readsTemplate_of_reaches dialect .empty text hreaches hspans,
    by decide +kernel, by decide +kernel⟩

end Buffer

end NamedSql
