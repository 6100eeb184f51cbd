import NamedSql.Proofs.Consistency
import NamedSql.Proofs.Field
import NamedSql.Proofs.TwoPass

/-! # A plan is made of splices

Whatever the marker, a step changes the text ahead of the cursor in one place: of the text in front
of a reference it keeps a beginning, and the rest goes together with the reference and makes room for
the expansion (`Splice`). What goes holds no placeholder, and what is written holds one for each key
of the use that the layout takes down (`Splice.Fair`, `exists_splice_of_expands`). Finished text is
never touched again, so a run lines up its splices: one after the other they make up the template on
the one side, the SQL on the other, and the layout is the table of their uses
(`exists_madeOf_of_compile`). -/

namespace NamedSql

open Layout

/-! ### The names of a text -/

/-- The names of the references of a text, in order. -/
def Reference.names (marker : Char) (text : Text) : List Text :=
  (occurrences marker text).1.map (·.name)

theorem Occurrence.map_name_listFrom (marker : Char) (behind behind' ahead : Text) :
    (listFrom marker behind ahead).1.map (·.name) =
      (listFrom marker behind' ahead).1.map (·.name) := by
  induction ahead using Reference.scan_induction marker generalizing behind behind' with
  | none ahead h => rw [listFrom_of_none h, listFrom_of_none h]
  | some ahead r h ih =>
    rw [listFrom_of_some h, listFrom_of_some h, List.map_cons, List.map_cons, ih]

theorem Reference.names_of_none {marker : Char} {text : Text} (h : first? marker text = none) :
    names marker text = [] := by
  rw [names, occurrences, Occurrence.listFrom_of_none h]
  rfl

/-- The names behind the first reference are those of the text behind it. -/
theorem Reference.names_of_some {marker : Char} {text : Text} {r : Reference}
    (h : first? marker text = some r) : names marker text = r.name :: names marker r.tail := by
  rw [names, occurrences, Occurrence.listFrom_of_some h, List.map_cons,
    Occurrence.map_name_listFrom marker _ []]
  rfl

/-! ### Splices -/

/-- What a step does to the text ahead. -/
structure Splice where
  /-- The text that stays. -/
  kept : Text
  /-- The text in front of the reference that goes with it. -/
  dropped : Text
  /-- The use that the reference makes of its parameter. -/
  use : Param
  /-- What is written in its place. -/
  expansion : Text

namespace Splice

/-- The text of the template. -/
def source (marker : Char) (s : Splice) : Text := s.kept ++ (s.dropped ++ marker :: s.use.name)

/-- The text of the SQL. -/
def written (s : Splice) : Text := s.kept ++ s.expansion

/-- What goes holds no placeholder, and what is written holds one for each key of the use. -/
structure Fair (s : Splice) : Prop where
  dropped : Expansion.placeholder ∉ s.dropped
  name : Expansion.placeholder ∉ s.use.name
  expansion : s.expansion.count Expansion.placeholder = s.use.keys.length

end Splice

theorem isBlank_placeholder : isBlank Expansion.placeholder = false := by decide +kernel

theorem not_mem_name {marker : Char} {text : Text} {r : Reference}
    (h : Reference.first? marker text = some r) : Expansion.placeholder ∉ r.name := by
  have hword : isWord Expansion.placeholder = false := by decide +kernel
  intro hmem
  rw [Reference.name_eq_takeWhile h] at hmem
  rw [List.mem_takeWhile_imp hmem] at hword
  cases hword

/-- A field in front of LIKE_ANY that holds no placeholder leaves none between itself and the
reference. -/
theorem exists_of_likeAny {lead finished front field : Text} {negated : Bool}
    (h : Context.ofBehind (lead.reverse ++ finished) = .likeAny front field negated)
    (hfront : finished.length ≤ front.length) (hfield : Expansion.placeholder ∉ field) :
    ∃ kept dropped, lead = kept ++ dropped ∧ front = kept.reverse ++ finished ∧
      Expansion.placeholder ∉ dropped := by
  obtain ⟨gap, c, heq, -⟩ := Context.exists_of_ofBehind_eq_likeAny h
  have hcount := Context.count_of_ofBehind_eq_likeAny isBlank_placeholder unspelled_placeholder h
  obtain ⟨near, hnear⟩ : ∃ near, lead.reverse ++ finished = near ++ front :=
    ⟨gap ++ c :: field.reverse, by rw [heq, List.append_assoc, List.cons_append]⟩
  obtain ⟨rest, hlead, hrest⟩ : ∃ rest, lead.reverse = near ++ rest ∧ front = rest ++ finished := by
    -- the field stands in the text ahead, as it begins behind what is finished
    rcases List.append_eq_append_iff.mp hnear with ⟨rest, rfl, hfin⟩ | ⟨rest, hlead, hfin⟩
    · have hlength := congrArg List.length hfin
      rw [List.length_append] at hlength
      obtain rfl := List.eq_nil_of_length_eq_zero (show rest.length = 0 by omega)
      exact ⟨[], by simp, by simpa using hfin.symm⟩
    · exact ⟨rest, hlead, hfin⟩
  refine ⟨rest.reverse, near.reverse, ?_, by rw [List.reverse_reverse, hrest], ?_⟩
  · rw [← List.reverse_reverse lead, hlead, List.reverse_append]
  · rw [hnear, List.count_append, List.count_eq_zero.mpr hfield, Nat.zero_add] at hcount
    rw [List.mem_reverse]
    exact List.count_eq_zero.mp (by omega)

section

variable {dialect : Dialect} {capacities : Dict Nat}

/-- **One expansion** is a splice of the text ahead, and the layout takes down its use. -/
theorem exists_splice_of_expands {lead finished name behind : Text} {layout layout' : Layout}
    (hname : Expansion.placeholder ∉ name)
    (h : dialect.Expands capacities finished.length (lead.reverse ++ finished) layout name
      (Context.ofBehind (lead.reverse ++ finished)) behind layout') :
    ∃ s : Splice, s.Fair ∧ s.use.name = name ∧ lead = s.kept ++ s.dropped ∧
      behind.reverse = finished.reverse ++ s.written ∧ layout.add s.use = .ok layout' := by
  generalize hcontext : Context.ofBehind (lead.reverse ++ finished) = context at h
  cases h with
  | scalar hfree hadd =>
    rw [addScalar_eq_add] at hadd
    refine ⟨⟨lead, [], ⟨name, .scalar, false⟩, Expansion.single⟩,
      ⟨List.not_mem_nil, hname, rfl⟩, rfl, (List.append_nil _).symm, ?_, hadd⟩
    simp [Splice.written]
  | @inList negated capacity _ hcap hadd =>
    rw [addList_eq_add] at hadd
    refine ⟨⟨lead, [], ⟨name, .list capacity, negated⟩, Expansion.group capacity⟩,
      ⟨List.not_mem_nil, hname, ?_⟩, rfl, (List.append_nil _).symm, ?_, hadd⟩
    · simp [Param.keys, Expansion.count_group]
    · simp [Splice.written]
  | @likeAny front field negated capacity _ hfront hfield hcap hadd =>
    rw [addList_eq_add] at hadd
    obtain ⟨kept, dropped, hlead, rfl, hdropped⟩ := exists_of_likeAny hcontext hfront hfield
    refine ⟨⟨kept, dropped, ⟨name, .list capacity, negated⟩,
      Expansion.alternatives field capacity negated⟩, ⟨hdropped, hname, ?_⟩, rfl, hlead, ?_, hadd⟩
    · simp [Param.keys, Expansion.count_alternatives hfield]
    · simp [Splice.written]

/-- **One step** is a splice of the text ahead. -/
theorem exists_splice_of_step? {draft next : Draft} {visit : Visit}
    (h : dialect.step? capacities draft = some (visit, .ok next)) :
    ∃ s : Splice, s.Fair ∧ draft.ahead = s.source dialect.marker ++ next.ahead ∧
      next.behind.reverse = draft.behind.reverse ++ s.written ∧
      draft.layout.add s.use = .ok next.layout ∧
      Reference.names dialect.marker draft.ahead =
        s.use.name :: Reference.names dialect.marker next.ahead := by
  obtain ⟨r, hr, htail, hexpands⟩ := Dialect.exists_of_step? h
  obtain ⟨s, hfair, hname, hlead, hbehind, hadd⟩ :=
    exists_splice_of_expands (not_mem_name hr) hexpands
  refine ⟨s, hfair, ?_, hbehind, hadd, ?_⟩
  · rw [Reference.eq_of_first? hr, htail, hlead, ← hname, Splice.source]
    simp
  · rw [Reference.names_of_some hr, htail, hname]

/-! ### Runs -/

/-- Splices lead from one draft to the other. -/
structure Spliced (marker : Char) (first last : Draft) (splices : List Splice) : Prop where
  fair : ∀ s ∈ splices, s.Fair
  ahead : first.ahead = splices.flatMap (Splice.source marker) ++ last.ahead
  behind : last.behind.reverse = first.behind.reverse ++ splices.flatMap Splice.written
  layout : (splices.map Splice.use).foldlM Layout.add first.layout = .ok last.layout
  names : Reference.names marker first.ahead =
    splices.map (·.use.name) ++ Reference.names marker last.ahead

theorem Spliced.refl (marker : Char) (draft : Draft) : Spliced marker draft draft [] where
  fair := fun _ h => absurd h List.not_mem_nil
  ahead := rfl
  behind := (List.append_nil _).symm
  layout := rfl
  names := rfl

/-- One more step adds a splice. -/
theorem Spliced.exists_concat {first mid next : Draft} {splices : List Splice} {visit : Visit}
    (h : Spliced dialect.marker first mid splices)
    (hstep : dialect.step? capacities mid = some (visit, .ok next)) :
    ∃ s, Spliced dialect.marker first next (splices ++ [s]) := by
  obtain ⟨s, hfair, hahead, hbehind, hadd, hnames⟩ := exists_splice_of_step? hstep
  refine ⟨s, ?_, ?_, ?_, ?_, ?_⟩
  · exact List.forall_mem_append.mpr ⟨h.fair, List.forall_mem_singleton.mpr hfair⟩
  · rw [h.ahead, hahead, List.flatMap_append, List.flatMap_singleton, List.append_assoc]
  · rw [hbehind, h.behind, List.flatMap_append, List.flatMap_singleton, List.append_assoc]
  · rw [List.map_append, List.foldlM_append, h.layout]
    show (s.use :: []).foldlM Layout.add mid.layout = _
    rw [List.foldlM_cons, hadd]
    rfl
  · rw [h.names, hnames, List.map_append, List.append_assoc]
    rfl

theorem exists_spliced_of_reaches {first last : Draft}
    (h : dialect.Reaches capacities first last) :
    ∃ splices, Spliced dialect.marker first last splices := by
  induction h with
  | refl => exact ⟨[], .refl _ _⟩
  | step _ hstep ih =>
    obtain ⟨splices, h⟩ := ih
    obtain ⟨s, h⟩ := h.exists_concat hstep
    exact ⟨splices ++ [s], h⟩

/-- The template, the SQL and the layout of a plan are made of splices. -/
structure Plan.MadeOf (plan : Plan) (marker : Char) (splices : List Splice) (rest : Text) :
    Prop where
  fair : ∀ s ∈ splices, s.Fair
  source : plan.source = splices.flatMap (Splice.source marker) ++ rest
  sql : plan.sql = splices.flatMap Splice.written ++ rest
  names : Reference.names marker plan.source = splices.map (·.use.name)
  layout : plan.layout = ofUses (splices.map Splice.use)
  uniform : Uniform (splices.map Splice.use)

/-- **A plan** is made of splices. -/
theorem exists_madeOf_of_compile {text : Text} {plan : Plan}
    (h : dialect.compile text capacities = .ok plan) :
    plan.source = text ∧ ∃ splices rest, plan.MadeOf dialect.marker splices rest := by
  obtain ⟨last, hlast, rfl⟩ := Dialect.exists_of_compile h
  obtain ⟨hreaches, hnone⟩ := Dialect.reaches_of_run hlast
  obtain ⟨splices, hspliced⟩ := exists_spliced_of_reaches hreaches
  have hlayout := hspliced.layout
  rw [Draft.ofText, ← ofUses_nil] at hlayout
  obtain ⟨hlayout, huniform⟩ := of_foldlM_add (fun _ h => absurd h List.not_mem_nil) hlayout
  refine ⟨rfl, splices, last.ahead, hspliced.fair, hspliced.ahead, ?_, ?_, hlayout, huniform⟩
  · rw [Draft.text, hspliced.behind]
    rfl
  · have hnames := hspliced.names
    rwa [Reference.names_of_none hnone, List.append_nil] at hnames

end

/-! ### Reading a plan -/

/-- The keys of the placeholders that one reference to a name takes. -/
def Plan.keysOf (plan : Plan) (name : Text) : List Text :=
  ((plan.param? name).map Param.keys).getD []

namespace Plan.MadeOf

variable {plan : Plan} {marker : Char} {splices : List Splice} {rest : Text}
  (h : plan.MadeOf marker splices rest)
include h

theorem consistent : plan.layout.Consistent := by
  rw [h.layout]
  exact consistent_ofUses h.uniform

theorem param?_eq {s : Splice} (hs : s ∈ splices) :
    plan.param? s.use.name = some (merge (splices.map Splice.use) s.use.name) := by
  rw [Plan.param?, h.layout]
  exact param?_ofUses (List.mem_map_of_mem hs)

theorem keysOf_eq {s : Splice} (hs : s ∈ splices) : plan.keysOf s.use.name = s.use.keys := by
  rw [Plan.keysOf, h.param?_eq hs, Option.map_some, Option.getD_some,
    keys_merge h.uniform (List.mem_map_of_mem hs)]

theorem positions_eq_ok_iff {key : Text} {positions : List Nat} :
    plan.positions key = .ok positions ↔ key ∈ (splices.map Splice.use).flatMap Param.keys ∧
      positions = positionsOf key ((splices.map Splice.use).flatMap Param.keys) := by
  rw [← positions?_ofUses_eq_some_iff, ← h.layout, Plan.positions]
  cases plan.layout.positions? key <;> simp

end Plan.MadeOf

end NamedSql
