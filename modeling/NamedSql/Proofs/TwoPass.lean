import NamedSql.Occurrence
import NamedSql.Proofs.Steps

/-! # Compilation in two passes

A draft reads the context of a reference from finished SQL, an occurrence from the text of the
template. Whatever the template holds, both give the same plan or the same error
(`compile_eq_render`), unless the marker is the parenthesis, which ends a word: what lies behind the
cursor of a draft and what lies behind it in the template are both empty or both sealed (`Matched`),
one reference is expanded alike on both sides (`expand_eq_expansion`), and so are all of them
(`run_eq_renderAll`). -/

namespace NamedSql

open Context (SealedBy sealedBy_append Alike alike_of_nil_or_sealedBy)

/-! ### Occurrences and the places of references -/

namespace Occurrence

theorem listFrom_of_none {marker : Char} {behind ahead : Text}
    (h : Reference.first? marker ahead = none) : listFrom marker behind ahead = ([], ahead) := by
  rw [listFrom]
  split <;> simp_all

theorem listFrom_of_some {marker : Char} {behind ahead : Text} {r : Reference}
    (h : Reference.first? marker ahead = some r) :
    listFrom marker behind ahead =
      (⟨r.lead.reverse ++ behind, behind.length, r.name⟩ ::
        (listFrom marker (r.name.reverse ++ marker :: (r.lead.reverse ++ behind)) r.tail).1,
      (listFrom marker (r.name.reverse ++ marker :: (r.lead.reverse ++ behind)) r.tail).2) := by
  rw [listFrom]
  split <;> simp_all

/-- The bytes that the reference takes. -/
def span (marker : Char) (o : Occurrence) : Reference.Span :=
  ⟨o.start, o.start + Text.byteLength (marker :: o.name), o.name⟩

theorem map_span_listFrom (marker : Char) (behind ahead : Text) :
    (listFrom marker behind ahead).1.map (span marker) =
      Reference.spansFrom marker behind.byteLength ahead := by
  induction ahead using Reference.scan_induction marker generalizing behind with
  | none ahead h => rw [listFrom_of_none h, Reference.spansFrom_of_none h]; rfl
  | some ahead r h ih =>
    rw [listFrom_of_some h, Reference.spansFrom_of_some h, List.map_cons, ih]
    have hstart : Text.byteLength (r.lead.reverse ++ behind) =
        behind.byteLength + r.lead.byteLength := by
      simp [Nat.add_comm]
    have hstop : Text.byteLength (r.name.reverse ++ marker :: (r.lead.reverse ++ behind)) =
        behind.byteLength + r.lead.byteLength + Text.byteLength (marker :: r.name) := by
      simp
      omega
    simp only [span, start, hstart, hstop, Reference.Span.ofBefore]

/-- What lies behind an occurrence is a beginning of the text. -/
theorem exists_append_of_mem_listFrom {marker : Char} {behind ahead : Text} {o : Occurrence}
    (h : o ∈ (listFrom marker behind ahead).1) :
    ∃ rest, behind.reverse ++ ahead = o.behind.reverse ++ rest := by
  induction ahead using Reference.scan_induction marker generalizing behind with
  | none ahead hr => rw [listFrom_of_none hr] at h; exact absurd h List.not_mem_nil
  | some ahead r hr ih =>
    have hahead := Reference.eq_of_first? hr
    rw [listFrom_of_some hr] at h
    rcases List.mem_cons.mp h with rfl | h
    · refine ⟨marker :: (r.name ++ r.tail), ?_⟩
      rw [hahead]
      simp
    · obtain ⟨rest, hrest⟩ := ih h
      refine ⟨rest, ?_⟩
      rw [hahead, ← hrest]
      simp

end Occurrence

/-- The occurrences stand where a scan of the text from its start finds references. -/
theorem spans?_eq_map_occurrences (marker : Char) (text : Text) :
    Reference.spans? marker text 0 =
      some ((occurrences marker text).1.map (Occurrence.span marker)) := by
  rw [occurrences, Occurrence.map_span_listFrom, Reference.spans?_eq, if_neg (by omega)]
  simp [Reference.boundary]

/-- The context of an occurrence is the one that is read on the text at its start. -/
theorem at?_start_of_mem_occurrences {marker : Char} {text : Text} {o : Occurrence}
    (h : o ∈ (occurrences marker text).1) : Context.at? text o.start = some o.context := by
  obtain ⟨rest, hrest⟩ := Occurrence.exists_append_of_mem_listFrom h
  have hb : text.behind? o.start = some o.behind :=
    Text.behind?_eq_some_iff.mpr ⟨rest, hrest, rfl⟩
  rw [Context.at?, hb]
  rfl

namespace Dialect

section

variable {dialect : Dialect} {capacities : Dict Nat} {layout layout' : Layout} {sql : Text}

theorem renderAll_cons_of_error {o : Occurrence} {e : Error}
    (h : o.expansion dialect capacities layout = .error e) (later : List Occurrence) :
    dialect.renderAll capacities layout (o :: later) = .error e := by
  rw [renderAll, h]
  rfl

theorem renderAll_cons_of_ok {o : Occurrence}
    (h : o.expansion dialect capacities layout = .ok (sql, layout')) (later : List Occurrence) :
    dialect.renderAll capacities layout (o :: later) =
      (dialect.renderAll capacities layout' later).map
        fun (rest, layout) => (sql ++ rest, layout) := by
  rw [renderAll, h]
  show (dialect.renderAll capacities layout' later >>= _) = _
  cases dialect.renderAll capacities layout' later <;> rfl

theorem render_of_error {text : Text} {e : Error}
    (h : dialect.renderAll capacities .empty (occurrences dialect.marker text).1 = .error e) :
    dialect.render text capacities = .error e := by
  show (dialect.renderAll capacities .empty (occurrences dialect.marker text).1 >>= _) = _
  rw [h]
  rfl

theorem render_of_ok {text : Text}
    (h : dialect.renderAll capacities .empty (occurrences dialect.marker text).1 =
      .ok (sql, layout)) :
    dialect.render text capacities =
      match capacities.names.find? fun name => (layout.param? name).isNone with
      | some name => .error (.listRequired name)
      | none => .ok ⟨text, sql ++ (occurrences dialect.marker text).2, layout⟩ := by
  show (dialect.renderAll capacities .empty (occurrences dialect.marker text).1 >>= _) = _
  rw [h]
  rfl

end

end Dialect

/-! ### One reference -/

/-- Nothing lies behind the cursor of a draft nor behind it in the template, or both are sealed. -/
def Matched (marker : Char) (finished original : Text) : Prop :=
  finished = [] ∧ original = [] ∨
    SealedBy Expansion.placeholder finished ∧ SealedBy marker original

namespace Occurrence

theorem gap_append (o : Occurrence) (front original : Text) (h : o.previous = original.length) :
    o.gap (front ++ original) = front.reverse := by
  simp [gap, h]

end Occurrence

section

variable {dialect : Dialect} (capacities : Dict Nat) {finished original : Text}

theorem Matched.alike (h : Matched dialect.marker finished original) (l : Text) :
    Alike Expansion.placeholder dialect.marker finished original
      (Context.ofBehind (l ++ finished)) (Context.ofBehind (l ++ original)) :=
  alike_of_nil_or_sealedBy h unspelled_placeholder (unspelled_of_canMark dialect.canMark_marker) l

/-- What is written for a list, as a draft and as an occurrence does it. -/
theorem bind_addList_eq_map (name : Text) (negated : Bool) (layout : Layout) {f g : Nat → Text}
    (h : ∀ n, f n = (g n).reverse ++ finished) :
    (do
        let capacity ← dialect.capacityOf capacities name
        let layout ← layout.addList name capacity negated
        return (f capacity, layout) : Except Error (Text × Layout)) =
      (do
        let capacity ← dialect.capacityOf capacities name
        let layout ← layout.addList name capacity negated
        return (g capacity, layout) : Except Error (Text × Layout)).map
        fun (sql, layout) => (sql.reverse ++ finished, layout) := by
  cases dialect.capacityOf capacities name with
  | error e => rfl
  | ok capacity =>
    cases hadd : layout.addList name capacity negated with
    | error e => simp [hadd, Except.map, bind, Except.bind]
    | ok layout => simp [hadd, h, Except.map, bind, Except.bind, pure, Except.pure]

/-- **One reference**: a draft writes for it, behind its cursor, what the occurrence stands for. -/
theorem expand_eq_expansion (h : Matched dialect.marker finished original) (l name : Text)
    (layout : Layout) :
    dialect.expand capacities finished.length (l ++ finished) layout name
        (Context.ofBehind (l ++ finished)) =
      (Occurrence.expansion dialect capacities layout ⟨l ++ original, original.length, name⟩).map
        fun (sql, layout) => (sql.reverse ++ finished, layout) := by
  have halike := h.alike l
  unfold Occurrence.expansion Occurrence.context
  dsimp only
  generalize Context.ofBehind (l ++ finished) = here at halike ⊢
  generalize Context.ofBehind (l ++ original) = there at halike ⊢
  cases halike with
  | scalar =>
    unfold Dialect.expand
    dsimp only
    rw [Occurrence.gap_append _ _ _ rfl]
    split_ifs
    · rfl
    · cases layout.addScalar name with
      | error e => rfl
      | ok layout => simp [Except.map, bind, Except.bind, pure, Except.pure]
  | inList negated =>
    rw [Occurrence.gap_append _ _ _ rfl]
    exact bind_addList_eq_map capacities name negated layout fun n => by simp
  | within front field negated =>
    have htaken : Occurrence.FieldTaken ⟨l ++ original, original.length, name⟩
        (front ++ original) field ↔
          (front ++ finished).length < finished.length ∨ Expansion.placeholder ∈ field := by
      simp only [Occurrence.FieldTaken, List.length_append]
      exact or_congr_left (by omega)
    unfold Dialect.expand
    dsimp only
    rw [Occurrence.gap_append _ _ _ rfl]
    split_ifs with h1 h2 h2
    · rfl
    · exact absurd (htaken.mpr h1) h2
    · exact absurd (htaken.mp h2) h1
    · exact bind_addList_eq_map capacities name negated layout fun n => by simp
  | @across front field front' field' negated hx hfront hx' hfront' =>
    -- the draft sees the placeholder in the field, the occurrence where the field begins
    have htaken : Occurrence.FieldTaken ⟨l ++ original, original.length, name⟩ front' field' :=
      Or.inl hfront'
    unfold Dialect.expand
    dsimp only
    rw [if_pos (Or.inr hx), if_pos htaken]
    rfl

end

/-! ### All references -/

section

variable {dialect : Dialect} (capacities : Dict Nat)

theorem inWord_of_mem_name {marker : Char} {text : Text} {r : Reference}
    (h : Reference.first? marker text = some r) : ∀ c ∈ r.name, Context.inWord c = true := by
  intro c hc
  rw [Reference.name_eq_takeWhile h] at hc
  exact inWord_of_isWord (List.mem_takeWhile_imp hc)

/-- A reference seals the text of the template behind its end. -/
theorem sealedBy_marker (hm : dialect.marker ≠ '(') {text : Text} {r : Reference}
    (h : Reference.first? dialect.marker text = some r) (behind : Text) :
    SealedBy dialect.marker (r.name.reverse ++ dialect.marker :: behind) :=
  sealedBy_append (fun c hc => inWord_of_mem_name h c (List.mem_reverse.mp hc))
    (inWord_of_canMark dialect.canMark_marker hm) behind

/-- What the occurrences stand for, once a draft has written it. -/
theorem run_eq_renderAll (hm : dialect.marker ≠ '(') {finished original : Text}
    (h : Matched dialect.marker finished original) (ahead : Text) (layout : Layout) :
    (dialect.run capacities ⟨finished, ahead, layout⟩).2.map
        (fun draft => (draft.text, draft.layout)) =
      (dialect.renderAll capacities layout
        (Occurrence.listFrom dialect.marker original ahead).1).map
        fun (sql, layout) =>
          (finished.reverse ++ (sql ++ (Occurrence.listFrom dialect.marker original ahead).2),
            layout) := by
  induction ahead using Reference.scan_induction dialect.marker
    generalizing finished original layout with
  | none ahead hr =>
    rw [Dialect.run_of_step?_eq_none (Dialect.step?_of_none hr), Occurrence.listFrom_of_none hr]
    rfl
  | some ahead r hr ih =>
    have hone := expand_eq_expansion capacities h r.lead.reverse r.name layout
    have hstep := @Dialect.step?_of_some dialect capacities ⟨finished, ahead, layout⟩ r hr
    dsimp only at hstep
    rw [hone] at hstep
    rw [Occurrence.listFrom_of_some hr]
    dsimp only
    cases hexp : Occurrence.expansion dialect capacities layout
        ⟨r.lead.reverse ++ original, original.length, r.name⟩ with
    | error e =>
      rw [hexp] at hstep
      rw [Dialect.run_of_step?_eq_error hstep, Dialect.renderAll_cons_of_error hexp]
      rfl
    | ok result =>
      obtain ⟨sql, layout1⟩ := result
      rw [hexp] at hstep hone
      have hmatched : Matched dialect.marker (sql.reverse ++ finished)
          (r.name.reverse ++ dialect.marker :: (r.lead.reverse ++ original)) :=
        Or.inr ⟨(Dialect.expands_of_expand hone).sealedBy, sealedBy_marker hm hr _⟩
      rw [Dialect.run_of_step?_eq_ok hstep, Dialect.renderAll_cons_of_ok hexp]
      dsimp only
      rw [ih hmatched]
      cases dialect.renderAll capacities layout1 (Occurrence.listFrom dialect.marker
        (r.name.reverse ++ dialect.marker :: (r.lead.reverse ++ original)) r.tail).1 with
      | error e => rfl
      | ok rest => simp [Except.map]

theorem compile_eq (hm : dialect.marker ≠ '(') (text : Text) :
    dialect.compile text capacities = dialect.render text capacities := by
  have hrun := run_eq_renderAll capacities hm (Or.inl ⟨rfl, rfl⟩) text .empty
  cases hall : dialect.renderAll capacities .empty (occurrences dialect.marker text).1 with
  | error e =>
    rw [← occurrences, hall] at hrun
    cases hdraft : (dialect.run capacities ⟨[], text, .empty⟩).2 with
    | error e' =>
      rw [hdraft] at hrun
      cases hrun
      rw [Dialect.render_of_error hall, Dialect.compile, Draft.ofText, hdraft]
    | ok draft => rw [hdraft] at hrun; cases hrun
  | ok result =>
    obtain ⟨sql, layout⟩ := result
    rw [← occurrences, hall] at hrun
    cases hdraft : (dialect.run capacities ⟨[], text, .empty⟩).2 with
    | error e' => rw [hdraft] at hrun; cases hrun
    | ok draft =>
      rw [hdraft] at hrun
      obtain ⟨htext, hlayout⟩ := Prod.mk.inj (Except.ok.inj hrun)
      rw [Dialect.render_of_ok hall, Dialect.compile, Draft.ofText, hdraft]
      dsimp only
      rw [htext, hlayout]
      rfl

/-- **Compilation in two passes**: to expand the references of a text one by one, reading contexts
from the text expanded so far, is the same as to find all references and their contexts in the text
as it is, by a scan from its start, and then to copy the text between them and to write an expansion
for each. The plan is the same, and so is the error. -/
theorem compile_eq_render (hm : dialect.marker ≠ '(') (text : Text) (capacities : Dict Nat) :
    dialect.compile text capacities = dialect.render text capacities ∧
      Reference.spans? dialect.marker text 0 =
        some ((occurrences dialect.marker text).1.map (Occurrence.span dialect.marker)) ∧
      ∀ o ∈ (occurrences dialect.marker text).1, Context.at? text o.start = some o.context :=
  ⟨compile_eq capacities hm text, spans?_eq_map_occurrences _ _,
    fun _ => at?_start_of_mem_occurrences⟩

theorem compile_eq_render_like_any :
    Dialect.standard.marker ≠ '(' ∧
      Dialect.standard.compile "a NOT LIKE_ANY :b, :c".toList (Dict.empty.insert ['b'] 2) =
        .ok ⟨"a NOT LIKE_ANY :b, :c".toList, "a NOT LIKE ? AND a NOT LIKE ?, ?".toList,
          ⟨3, [⟨['b'], .list 2, true⟩, ⟨['c'], .scalar, false⟩],
            [("b__0".toList, [1]), ("b__1".toList, [2]), (['c'], [3])]⟩⟩ := by
  refine ⟨by decide, ?_⟩
  rw [(compile_eq_render (by decide) _ _).1]
  decide +kernel

end

end NamedSql
