import NamedSql.Buffer
import NamedSql.Proofs.Acceptance
import NamedSql.Proofs.Spans

/-! # Rewriting by offsets never slips

A buffer does by offsets what a draft does by the two halves of its text: it holds the text of the
draft, and its cursor is the length of what lies behind the cursor of the draft (`Buffer.ofDraft`).
Every offset that a step uses is the length of a beginning of the text, which makes it a boundary,
and the edit that it leads to is the expansion of the draft (`apply_edit`). So a step of the buffer
is the step of the draft (`step_ofDraft`) and never slips, and the steps lead through the same texts
(`exists_of_reaches`) to the same end (`exists_last`).

Each step takes a reference, with its marker, from the text ahead of the cursor and writes behind
the cursor only. That the text behind the cursor may grow by any amount therefore does not matter:
there are at most as many steps as the template has markers, and the text ahead is always an end of
the template (`step_within_bounds`). -/

namespace NamedSql

namespace Text

theorem isBoundary_append (front rest : Text) : (front ++ rest).IsBoundary front.byteLength :=
  ⟨front, rest, rfl, rfl⟩

theorem IsBoundary.le {t : Text} {n : Nat} (h : t.IsBoundary n) : n ≤ t.byteLength := by
  obtain ⟨front, rest, rfl, rfl⟩ := h
  rw [byteLength_append]
  exact Nat.le_add_right _ _

theorem behind?_append (front rest : Text) :
    (front ++ rest).behind? front.byteLength = some front.reverse :=
  behind?_eq_some_iff.mpr ⟨rest, by simp, byteLength_reverse front⟩

/-- A part of a text is replaced by its offsets. -/
theorem replace?_append (front part rest new : Text) :
    (front ++ (part ++ rest)).replace? front.byteLength (front ++ part).byteLength new =
      some (front ++ (new ++ rest)) := by
  have hstop := behind?_append (front ++ part) rest
  have hdrop := dropBytes_byteLength_append (front ++ part) rest
  have hle : front.byteLength ≤ (front ++ part).byteLength := by
    rw [byteLength_append]
    exact Nat.le_add_right _ _
  rw [List.append_assoc] at hstop hdrop
  rw [replace?, behind?_append, hstop]
  dsimp only
  rw [if_pos hle, hdrop, List.reverse_reverse]

end Text

/-- The context at an offset is read from what lies behind it. -/
theorem Context.at?_append (behind rest : Text) :
    Context.at? (behind.reverse ++ rest) behind.byteLength = some (ofBehind behind) := by
  have h := Text.behind?_append behind.reverse rest
  rw [Text.byteLength_reverse, List.reverse_reverse] at h
  rw [Context.at?, h]
  rfl

/-- A field begins in front of the reference. -/
theorem Context.byteLength_front_lt {behind front field : Text} {negated : Bool}
    (h : ofBehind behind = .likeAny front field negated) :
    front <:+ behind ∧ front.byteLength < behind.byteLength := by
  obtain ⟨gap, c, rfl, -⟩ := exists_of_ofBehind_eq_likeAny h
  refine ⟨⟨gap ++ c :: field.reverse, by simp⟩, ?_⟩
  have := c.utf8Size_pos
  simp only [Text.byteLength_append, Text.byteLength_cons]
  omega

/-! ### One step -/

namespace Buffer

/-- A draft as one text with an offset. -/
def ofDraft (draft : Draft) : Buffer := ⟨draft.text, draft.behind.byteLength, draft.layout⟩

section

variable {dialect : Dialect} {capacities : Dict Nat}

/-- An edit whose offsets are boundaries is carried out: what is written comes to stand behind the
text in front of it, and the rest of the template behind that. -/
theorem apply_append (front dropped rest : Text) (layout : Layout) (cursor : Nat)
    (span : Reference.Span) (edit : Edit) (hstart : edit.start = front.byteLength)
    (hstop : span.stop = Text.byteLength (front.reverse ++ dropped)) :
    apply ⟨front.reverse ++ (dropped ++ rest), cursor, layout⟩ span edit =
      .ofExcept ((layout.register span.name edit.negated edit.kind).map fun layout =>
        ofDraft ⟨edit.expansion.reverse ++ front, rest, layout⟩) := by
  have hreplace := Text.replace?_append front.reverse dropped rest edit.expansion
  rw [Text.byteLength_reverse] at hreplace
  rw [apply, hstart, hstop, hreplace]
  simp [ofDraft, Draft.text, Nat.add_comm]

/-- A list is expanded by an edit as it is by a draft. -/
theorem ofExcept_bind_addList (name : Text) (negated : Bool) (layout : Layout) (f : Nat → Edit)
    (g : Nat → Text) (rest : Text) {apply : Edit → Outcome}
    (h : ∀ n, apply (f n) = .ofExcept ((layout.addList name n negated).map fun layout =>
      ofDraft ⟨g n, rest, layout⟩)) :
    (match (dialect.capacityOf capacities name).map f with
      | .error e => Outcome.failed e
      | .ok edit => apply edit) =
      .ofExcept ((do
        let capacity ← dialect.capacityOf capacities name
        let layout ← layout.addList name capacity negated
        return (g capacity, layout) : Except Error (Text × Layout)).map
          fun (behind, layout) => ofDraft ⟨behind, rest, layout⟩) := by
  cases dialect.capacityOf capacities name with
  | error e => rfl
  | ok capacity =>
    refine (h capacity).trans ?_
    cases hadd : layout.addList name capacity negated with
    | error e => simp [hadd, Except.map, bind, Except.bind]
    | ok layout => simp [hadd, Except.map, bind, Except.bind, pure, Except.pure]

/-- **One edit** does what the expansion of the draft does. -/
theorem apply_edit {marker : Char} {finished behind name : Text} (hfinished : finished <:+ behind)
    (rest : Text) (layout : Layout) {span : Reference.Span}
    (hspan : span = ⟨behind.byteLength, Text.byteLength (behind.reverse ++ marker :: name), name⟩) :
    (match dialect.edit capacities finished.byteLength span (Context.ofBehind behind) with
      | .error e => Outcome.failed e
      | .ok edit =>
        apply ⟨behind.reverse ++ (marker :: name ++ rest), finished.byteLength, layout⟩ span edit) =
      .ofExcept ((dialect.expand capacities finished.length behind layout name
        (Context.ofBehind behind)).map fun (behind, layout) => ofDraft ⟨behind, rest, layout⟩) := by
  subst hspan
  cases hcontext : Context.ofBehind behind with
  | scalar =>
    unfold Dialect.edit Dialect.expand
    dsimp only
    split_ifs
    · rfl
    · dsimp only
      rw [apply_append _ _ _ _ _ _ _ rfl rfl]
      dsimp only [Layout.register]
      cases layout.addScalar name <;> rfl
  | inList negated =>
    exact ofExcept_bind_addList name negated layout _ _ rest fun n =>
      apply_append _ _ _ _ _ _ _ rfl rfl
  | likeAny front field negated =>
    obtain ⟨⟨between, hbetween⟩, -⟩ := Context.byteLength_front_lt hcontext
    have hfront : front.byteLength < finished.byteLength ↔ front.length < finished.length :=
      Text.byteLength_lt_iff ⟨between, hbetween⟩ hfinished
    unfold Dialect.edit Dialect.expand
    dsimp only
    simp only [hfront]
    split_ifs
    · rfl
    · refine ofExcept_bind_addList name negated layout _ _ rest fun n => ?_
      -- what stands between the text in front of the field and the marker goes with the reference
      have htext : behind.reverse ++ (marker :: name ++ rest) =
          front.reverse ++ ((between.reverse ++ marker :: name) ++ rest) := by
        rw [← hbetween]
        simp
      rw [htext]
      refine apply_append _ _ _ _ _ _ _ rfl ?_
      rw [← hbetween]
      simp

/-- The first reference from the cursor on, by its offsets. -/
theorem spans?_ofDraft {draft : Draft} {r : Reference}
    (h : Reference.first? dialect.marker draft.ahead = some r) :
    draft.text = (r.lead.reverse ++ draft.behind).reverse ++ (dialect.marker :: r.name ++ r.tail) ∧
      ∃ later, Reference.spans? dialect.marker draft.text draft.behind.byteLength =
        some (⟨Text.byteLength (r.lead.reverse ++ draft.behind), Text.byteLength
          ((r.lead.reverse ++ draft.behind).reverse ++ dialect.marker :: r.name), r.name⟩ ::
            later) := by
  have hspans := @Reference.spans?_byteLength dialect.marker draft.behind.reverse draft.ahead
  rw [Text.byteLength_reverse, ← Draft.text, Reference.spansFrom_of_some h] at hspans
  refine ⟨?_, _, hspans.trans (congrArg (fun span => some (span :: _)) ?_)⟩
  · rw [Draft.text, Reference.eq_of_first? h]
    simp
  · simp [Reference.Span.ofBefore, Nat.add_comm, Nat.add_left_comm, Nat.add_assoc]

theorem spans?_ofDraft_of_none {draft : Draft}
    (h : Reference.first? dialect.marker draft.ahead = none) :
    Reference.spans? dialect.marker draft.text draft.behind.byteLength = some [] := by
  have hspans := @Reference.spans?_byteLength dialect.marker draft.behind.reverse draft.ahead
  rwa [Text.byteLength_reverse, ← Draft.text, Reference.spansFrom_of_none h] at hspans

/-- A reference that a scan finds is the first one ahead. -/
theorem exists_of_spans?_ofDraft {draft : Draft} {span : Reference.Span}
    {later : List Reference.Span}
    (h : Reference.spans? dialect.marker draft.text draft.behind.byteLength =
      some (span :: later)) :
    ∃ r : Reference,
      draft.text =
        (r.lead.reverse ++ draft.behind).reverse ++ (dialect.marker :: r.name ++ r.tail) ∧
      span = ⟨Text.byteLength (r.lead.reverse ++ draft.behind), Text.byteLength
        ((r.lead.reverse ++ draft.behind).reverse ++ dialect.marker :: r.name), r.name⟩ := by
  cases hr : Reference.first? dialect.marker draft.ahead with
  | none => rw [spans?_ofDraft_of_none hr] at h; cases h
  | some r =>
    obtain ⟨htext, later', hspans⟩ := spans?_ofDraft hr
    rw [hspans] at h
    exact ⟨r, htext, (List.cons.inj (Option.some.inj h)).1.symm⟩

/-- **One step** of a buffer is the step of the draft, and does not slip. -/
theorem step_ofDraft (draft : Draft) :
    (ofDraft draft).step dialect capacities =
      match dialect.step? capacities draft with
      | none => .done
      | some (_, result) => .ofExcept (result.map ofDraft) := by
  cases hr : Reference.first? dialect.marker draft.ahead with
  | none => rw [Dialect.step?_of_none hr, step, ofDraft, spans?_ofDraft_of_none hr]
  | some r =>
    obtain ⟨htext, later, hspans⟩ := spans?_ofDraft hr
    rw [Dialect.step?_of_some hr, step, ofDraft, hspans]
    dsimp only
    rw [htext, Context.at?_append]
    dsimp only
    refine (apply_edit (List.suffix_append r.lead.reverse draft.behind) _ _ rfl).trans ?_
    cases dialect.expand capacities draft.behind.length (r.lead.reverse ++ draft.behind)
        draft.layout r.name (Context.ofBehind (r.lead.reverse ++ draft.behind)) <;> rfl

theorem step_ne_slipped (draft : Draft) :
    (ofDraft draft).step dialect capacities ≠ .slipped := by
  intro h
  rw [step_ofDraft] at h
  cases hstep : dialect.step? capacities draft with
  | none => rw [hstep] at h; cases h
  | some result =>
    obtain ⟨visit, e | next⟩ := result <;> (rw [hstep] at h; cases h)

theorem exists_of_step_eq_next {draft : Draft} {buffer : Buffer}
    (h : (ofDraft draft).step dialect capacities = .next buffer) :
    ∃ visit next, dialect.step? capacities draft = some (visit, .ok next) ∧
      buffer = ofDraft next := by
  rw [step_ofDraft] at h
  cases hstep : dialect.step? capacities draft with
  | none => rw [hstep] at h; cases h
  | some result =>
    obtain ⟨visit, e | next⟩ := result
    · rw [hstep] at h; cases h
    · rw [hstep] at h
      cases h
      exact ⟨visit, next, rfl, rfl⟩

/-! ### All steps -/

/-- A step takes a marker from the text ahead, and leaves an end of it. -/
theorem suffix_ahead_of_step? {draft next : Draft} {visit : Visit}
    (h : dialect.step? capacities draft = some (visit, .ok next)) :
    next.ahead <:+ draft.ahead ∧
      next.ahead.count dialect.marker < draft.ahead.count dialect.marker ∧
      next.ahead.byteLength < draft.ahead.byteLength := by
  obtain ⟨r, hr, htail, -⟩ := Dialect.exists_of_step? h
  have := dialect.marker.utf8Size_pos
  rw [htail, Reference.eq_of_first? hr]
  refine ⟨⟨r.lead ++ dialect.marker :: r.name, by simp⟩, ?_, ?_⟩
  · simp only [List.count_append, List.count_cons_self]
    omega
  · simp only [Text.byteLength_append, Text.byteLength_cons]
    omega

/-- Steps lead through the texts of drafts, and each of them takes a marker from the text ahead. -/
theorem exists_of_reaches {first : Draft} {n : Nat} {buffer : Buffer}
    (h : Reaches dialect capacities (ofDraft first) n buffer) :
    ∃ draft, buffer = ofDraft draft ∧ draft.ahead <:+ first.ahead ∧
      n + draft.ahead.count dialect.marker ≤ first.ahead.count dialect.marker := by
  induction h with
  | refl => exact ⟨first, rfl, List.suffix_refl _, by omega⟩
  | step _ hstep ih =>
    obtain ⟨draft, rfl, hsuffix, hcount⟩ := ih
    obtain ⟨visit, next, hnext, rfl⟩ := exists_of_step_eq_next hstep
    obtain ⟨hsuffix', hcount', -⟩ := suffix_ahead_of_step? hnext
    exact ⟨next, rfl, hsuffix'.trans hsuffix, by omega⟩

theorem Reaches.head {first mid last : Buffer} {n : Nat}
    (hstep : first.step dialect capacities = .next mid)
    (h : Reaches dialect capacities mid n last) :
    Reaches dialect capacities first (n + 1) last := by
  induction h with
  | refl => exact Reaches.refl.step hstep
  | step _ h ih => exact ih.step h

/-- The steps end as the run of the draft does. -/
theorem exists_last (draft : Draft) :
    ∃ n last, Reaches dialect capacities (ofDraft draft) n last ∧
      ((last.step dialect capacities = .done ∧
          ∃ draft', (dialect.run capacities draft).2 = .ok draft' ∧ last = ofDraft draft') ∨
        ∃ e, last.step dialect capacities = .failed e ∧
          (dialect.run capacities draft).2 = .error e) := by
  induction hn : draft.ahead.length using Nat.strong_induction_on generalizing draft with
  | _ n ih =>
    subst hn
    have hbuffer := @step_ofDraft dialect capacities draft
    cases hstep : dialect.step? capacities draft with
    | none =>
      rw [hstep] at hbuffer
      rw [Dialect.run_of_step?_eq_none hstep]
      exact ⟨0, _, .refl, Or.inl ⟨hbuffer, draft, rfl, rfl⟩⟩
    | some result =>
      obtain ⟨visit, e | next⟩ := result
      · rw [hstep] at hbuffer
        rw [Dialect.run_of_step?_eq_error hstep]
        exact ⟨0, _, .refl, Or.inr ⟨e, hbuffer, rfl⟩⟩
      · rw [hstep] at hbuffer
        rw [Dialect.run_of_step?_eq_ok hstep]
        obtain ⟨n, last, hreaches, hlast⟩ :=
          ih _ (Dialect.length_ahead_lt_of_step? hstep) next rfl
        exact ⟨n + 1, last, hreaches.head hbuffer, hlast⟩

end

/-- What a step meets in a buffer that has come from the given template. -/
structure InBounds (dialect : Dialect) (capacities : Dict Nat) (template : Text)
    (buffer : Buffer) : Prop where
  /-- From the cursor on, the text is an end of the template. -/
  rest : ∃ finished rest, buffer.text = finished ++ rest ∧
    finished.byteLength = buffer.cursor ∧ rest <:+ template
  /-- The cursor stands between characters. -/
  cursor : buffer.text.IsBoundary buffer.cursor
  /-- The first reference from the cursor on lies in the text, between characters. -/
  span : ∀ span later,
    Reference.spans? dialect.marker buffer.text buffer.cursor = some (span :: later) →
      buffer.cursor ≤ span.start ∧ span.start < span.stop ∧ span.stop ≤ buffer.text.byteLength ∧
        buffer.text.IsBoundary span.start ∧ buffer.text.IsBoundary span.stop
  /-- A field begins in front of the reference, between characters. -/
  field : ∀ span later front field negated,
    Reference.spans? dialect.marker buffer.text buffer.cursor = some (span :: later) →
      Context.at? buffer.text span.start = some (.likeAny front field negated) →
        front.byteLength < span.start ∧ buffer.text.IsBoundary front.byteLength
  /-- The scan, the reading of the context and the replacement find their offsets. -/
  not_slipped : buffer.step dialect capacities ≠ .slipped
  /-- From the cursor on, the text gets shorter. -/
  decreases : ∀ next, buffer.step dialect capacities = .next next →
    next.text.byteLength - next.cursor < buffer.text.byteLength - buffer.cursor

theorem inBounds_ofDraft {dialect : Dialect} (capacities : Dict Nat) {template : Text}
    {draft : Draft} (hahead : draft.ahead <:+ template) :
    (ofDraft draft).InBounds dialect capacities template := by
  have hcursor : ∀ draft : Draft,
      (ofDraft draft).text.byteLength - (ofDraft draft).cursor = draft.ahead.byteLength := by
    intro draft
    simp [ofDraft, Draft.text]
  have hsplit : ∃ finished rest, (ofDraft draft).text = finished ++ rest ∧
      finished.byteLength = (ofDraft draft).cursor ∧ rest <:+ template :=
    ⟨draft.behind.reverse, draft.ahead, rfl, Text.byteLength_reverse _, hahead⟩
  refine ⟨hsplit, ?_, fun span later hspans => ?_,
    fun span later front field negated hspans hcontext => ?_, step_ne_slipped draft,
    fun next hnext => ?_⟩
  · obtain ⟨finished, rest, htext, hlength, -⟩ := hsplit
    exact ⟨finished, rest, htext, hlength⟩
  · obtain ⟨r, htext, rfl⟩ := exists_of_spans?_ofDraft hspans
    have hpos := dialect.marker.utf8Size_pos
    have hstart := Text.isBoundary_append (r.lead.reverse ++ draft.behind).reverse
      (dialect.marker :: r.name ++ r.tail)
    have hstop := Text.isBoundary_append
      ((r.lead.reverse ++ draft.behind).reverse ++ dialect.marker :: r.name) r.tail
    rw [List.append_assoc] at hstop
    rw [← htext] at hstart hstop
    rw [Text.byteLength_reverse] at hstart
    refine ⟨?_, ?_, hstop.le, hstart, hstop⟩
    · simp [ofDraft]
    · simp only [Text.byteLength_append, Text.byteLength_reverse, Text.byteLength_cons]
      omega
  · obtain ⟨r, htext, rfl⟩ := exists_of_spans?_ofDraft hspans
    rw [ofDraft, htext, Context.at?_append] at hcontext
    obtain ⟨⟨between, hbetween⟩, hlt⟩ :=
      Context.byteLength_front_lt (Option.some.inj hcontext)
    refine ⟨hlt, front.reverse, between.reverse ++ (dialect.marker :: r.name ++ r.tail), ?_,
      Text.byteLength_reverse _⟩
    rw [ofDraft, htext, ← hbetween]
    simp
  · obtain ⟨visit, draft', hstep, rfl⟩ := exists_of_step_eq_next hnext
    rw [hcursor, hcursor]
    exact (suffix_ahead_of_step? hstep).2.2

/-- **Rewriting by offsets never slips and comes to an end.** Whatever the template and the
capacities, each step meets a buffer that is in bounds, and there is a step only while fewer were
taken than the template has markers. The steps end where no reference is left, with the text and the
placeholders of the draft, or with the error that its run ends with. -/
theorem step_within_bounds (dialect : Dialect) (capacities : Dict Nat) (text : Text) :
    (∀ n buffer, Reaches dialect capacities (.ofText text) n buffer →
      buffer.InBounds dialect capacities text ∧ n ≤ text.count dialect.marker ∧
        (buffer.step dialect capacities ≠ .done → n < text.count dialect.marker)) ∧
    ∃ n last, Reaches dialect capacities (.ofText text) n last ∧
      ((last.step dialect capacities = .done ∧
          ∃ draft, (dialect.run capacities (.ofText text)).2 = .ok draft ∧ last = ofDraft draft) ∨
        ∃ e, last.step dialect capacities = .failed e ∧
          (dialect.run capacities (.ofText text)).2 = .error e) := by
  have hstart : ofText text = ofDraft (.ofText text) := rfl
  rw [hstart]
  refine ⟨fun n buffer h => ?_, exists_last _⟩
  obtain ⟨draft, rfl, hsuffix, hcount⟩ := exists_of_reaches h
  have hcount : n + draft.ahead.count dialect.marker ≤ text.count dialect.marker := hcount
  refine ⟨inBounds_ofDraft capacities hsuffix, by omega, fun hdone => ?_⟩
  have hmem : 0 < draft.ahead.count dialect.marker := by
    refine List.count_pos_iff.mpr ?_
    cases hr : Reference.first? dialect.marker draft.ahead with
    | none => rw [step_ofDraft, Dialect.step?_of_none hr] at hdone; exact absurd rfl hdone
    | some r =>
      rw [Reference.eq_of_first? hr]
      exact List.mem_append_right _ List.mem_cons_self
  omega

/-- With a field and a marker of two bytes each, of which the text gets longer. -/
theorem inBounds_wide_field :
    let dialect : Dialect := ⟨⟨'§', 2⟩, by decide +kernel, by decide⟩
    let text := "é LIKE_ANY §k".toList
    let last : Buffer := ⟨"é LIKE ? OR é LIKE ?".toList, 22,
      ⟨2, [⟨['k'], .list 2, false⟩], [("k__0".toList, [1]), ("k__1".toList, [2])]⟩⟩
    (ofText text).text.byteLength = 15 ∧ Reaches dialect .empty (.ofText text) 1 last ∧
      last.InBounds dialect .empty text ∧ last.step dialect .empty = .done := by
  intro dialect text last
  have h : (ofText text).step dialect .empty = .next last := by decide +kernel
  have hreaches : Reaches dialect .empty (.ofText text) 1 last := Reaches.refl.step h
  obtain ⟨hbounds, -, -⟩ := (step_within_bounds dialect .empty text).1 1 last hreaches
  exact ⟨by decide +kernel, hreaches, hbounds, by decide +kernel⟩

end Buffer

end NamedSql
