import NamedSql.Proofs.Rendering

/-! # Which texts compile

An expansion can fail for two reasons. Something may be wrong with the occurrence itself, with its
context and the capacity of its list (`Occurrence.refusal?`), or its use may be refused because its
name was used as another kind before. The first does not depend on the occurrences before it, and
the second comes down to a condition on all uses together: that any two uses of a name are of one
kind (`uniform_iff`). So the occurrences of a text tell whether it compiles
(`exists_compile_eq_ok_iff`), without a run over them.

The capacity of a list is a matter of its name alone, so two uses of a name can differ in being a
list or not, but never in their capacities (`exists_of_conflictingKinds`). -/

namespace NamedSql

open Layout

/-! ### Uses that agree -/

namespace Layout

/-- Uses are of the kinds of their parameters if any two uses of one name are of one kind. -/
theorem uniform_iff {uses : List Param} :
    Uniform uses ↔ ∀ a ∈ uses, ∀ b ∈ uses, a.name = b.name → a.kind = b.kind := by
  constructor
  · intro h a ha b hb hname
    rw [← h a ha, ← h b hb, hname]
  · intro h use huse
    obtain ⟨first, hfirst⟩ := Option.isSome_iff_exists.mp
      (List.find?_isSome (p := fun u => u.name == use.name) |>.mpr
        ⟨use, huse, beq_self_eq_true use.name⟩)
    have hname : first.name = use.name := by simpa using List.find?_some hfirst
    have hkind := h first (List.mem_of_find?_eq_some hfirst) use huse hname
    simpa [merge, hfirst] using hkind

/-- A use is refused if there was one of the same name and another kind. -/
theorem refused_iff {uses : List Param} (hu : Uniform uses) (use : Param) :
    (use.name ∈ uses.map (·.name) ∧ (merge uses use.name).kind ≠ use.kind) ↔
      ∃ u ∈ uses, u.name = use.name ∧ u.kind ≠ use.kind := by
  constructor
  · rintro ⟨hmem, hkind⟩
    obtain ⟨u, hu', hname⟩ := List.mem_map.mp hmem
    rw [← hname, hu u hu'] at hkind
    exact ⟨u, hu', hname, hkind⟩
  · rintro ⟨u, hu', hname, hkind⟩
    rw [← hu u hu', hname] at hkind
    exact ⟨List.mem_map.mpr ⟨u, hu', hname⟩, hkind⟩

end Layout

/-! ### One occurrence -/

namespace Occurrence

/-- What is wrong with an occurrence, whatever the other ones are. -/
def refusal? (capacities : Dict Nat) (o : Occurrence) : Option Error :=
  match o.context with
  | .scalar => if capacities.contains o.name then some (.listRequired o.name) else none
  | .inList _ => if capacities.get? o.name = some 0 then some (.zeroCapacity o.name) else none
  | .likeAny front field _ =>
    if o.FieldTaken front field then some (.placeholderInField o.name)
    else if capacities.get? o.name = some 0 then some (.zeroCapacity o.name)
    else none

theorem capacityOf_eq (dialect : Dialect) (capacities : Dict Nat) (name : Text) :
    dialect.capacityOf capacities name =
      if capacities.get? name = some 0 then .error (.zeroCapacity name)
      else .ok (dialect.room capacities name) := by
  unfold Dialect.capacityOf Dialect.room
  split <;> simp_all

/-- **One occurrence** is refused for itself, or because of its use, and otherwise writes what
stands for it. -/
theorem expansion_eq (dialect : Dialect) (capacities : Dict Nat) (o : Occurrence) (layout : Layout) :
    o.expansion dialect capacities layout =
      match o.refusal? capacities with
      | some e => .error e
      | none => (layout.add (o.use dialect capacities)).map fun layout =>
          (o.replacement dialect capacities, layout) := by
  have hlist : ∀ (negated : Bool) (f : Nat → Text),
      (do
        let capacity ← dialect.capacityOf capacities o.name
        let layout ← layout.addList o.name capacity negated
        return (f capacity, layout) : Except Error (Text × Layout)) =
      if capacities.get? o.name = some 0 then .error (.zeroCapacity o.name)
      else (layout.addList o.name (dialect.room capacities o.name) negated).map fun layout =>
        (f (dialect.room capacities o.name), layout) := by
    intro negated f
    rw [capacityOf_eq]
    split_ifs
    · rfl
    · cases h : layout.addList o.name (dialect.room capacities o.name) negated <;>
        simp [h, Except.map, bind, Except.bind, pure, Except.pure]
  unfold expansion refusal? replacement use
  cases hcontext : o.context with
  | scalar =>
    dsimp only
    split_ifs <;> rfl
  | inList negated =>
    dsimp only
    rw [hlist]
    split_ifs <;> rfl
  | likeAny front field negated =>
    dsimp only
    rw [hlist]
    split_ifs <;> rfl

theorem refusal?_ne_conflictingKinds (capacities : Dict Nat) (o : Occurrence) (name : Text) :
    o.refusal? capacities ≠ some (.conflictingKinds name) := by
  unfold refusal?
  split
  · split_ifs <;> simp
  · split_ifs <;> simp
  · split_ifs <;> simp

end Occurrence

/-! ### All occurrences -/

section

variable (dialect : Dialect) (capacities : Dict Nat)

/-- What can become of the next occurrence: it is wrong itself, it differs from an earlier use, or
its use becomes the last one. -/
theorem renderAll_cons_cases {uses : List Param} (hu : Uniform uses) (o : Occurrence)
    (later : List Occurrence) :
    (∃ e, o.refusal? capacities = some e ∧
      dialect.renderAll capacities (ofUses uses) (o :: later) = .error e) ∨
    (o.refusal? capacities = none ∧
      (∃ u ∈ uses, u.name = o.name ∧ u.kind ≠ (o.use dialect capacities).kind) ∧
      dialect.renderAll capacities (ofUses uses) (o :: later) = .error (.conflictingKinds o.name)) ∨
    (o.refusal? capacities = none ∧ Uniform (uses ++ [o.use dialect capacities]) ∧
      dialect.renderAll capacities (ofUses uses) (o :: later) =
        (dialect.renderAll capacities (ofUses (uses ++ [o.use dialect capacities])) later).map
          fun (rest, layout) => (o.replacement dialect capacities ++ rest, layout)) := by
  have hexp := o.expansion_eq dialect capacities (ofUses uses)
  cases hrefusal : o.refusal? capacities with
  | some e =>
    rw [hrefusal] at hexp
    exact Or.inl ⟨e, rfl, Dialect.renderAll_cons_of_error hexp later⟩
  | none =>
    rw [hrefusal, add_ofUses] at hexp
    dsimp only at hexp
    refine Or.inr ?_
    split_ifs at hexp with hrefused
    · exact Or.inl ⟨rfl, (refused_iff hu _).mp hrefused, Dialect.renderAll_cons_of_error hexp later⟩
    · exact Or.inr ⟨rfl, uniform_concat hu hrefused, Dialect.renderAll_cons_of_ok hexp later⟩

variable {dialect capacities}

theorem exists_renderAll_eq_ok_iff {uses : List Param} (hu : Uniform uses)
    (found : List Occurrence) :
    (∃ result, dialect.renderAll capacities (ofUses uses) found = .ok result) ↔
      (∀ o ∈ found, o.refusal? capacities = none) ∧
        Uniform (uses ++ found.map (Occurrence.use dialect capacities)) := by
  induction found generalizing uses with
  | nil =>
    rw [List.map_nil, List.append_nil]
    exact ⟨fun _ => ⟨fun _ h => absurd h List.not_mem_nil, hu⟩, fun _ => ⟨_, rfl⟩⟩
  | cons o later ih =>
    rw [List.forall_mem_cons, List.map_cons]
    rcases renderAll_cons_cases dialect capacities hu o later with
      ⟨e, hrefusal, h⟩ | ⟨hrefusal, ⟨u, huse, hname, hkind⟩, h⟩ | ⟨hrefusal, huniform, h⟩
    · rw [h, hrefusal]
      simp
    · rw [h]
      constructor
      · rintro ⟨_, h⟩
        cases h
      · rintro ⟨-, huniform⟩
        -- the use that is refused stands beside the earlier one
        exact absurd (uniform_iff.mp huniform u (List.mem_append_left _ huse) _
          (List.mem_append_right _ List.mem_cons_self) hname) hkind
    · rw [List.append_cons, and_assoc, ← ih huniform, and_iff_right hrefusal, h]
      cases dialect.renderAll capacities _ later <;> simp [Except.map]

theorem exists_of_renderAll_conflictingKinds {uses : List Param} (hu : Uniform uses)
    {found : List Occurrence} {name : Text}
    (h : dialect.renderAll capacities (ofUses uses) found = .error (.conflictingKinds name)) :
    ∃ u ∈ uses ++ found.map (Occurrence.use dialect capacities), ∃ o ∈ found,
      u.name = name ∧ o.name = name ∧ u.kind ≠ (o.use dialect capacities).kind := by
  induction found generalizing uses with
  | nil => cases h
  | cons o later ih =>
    rcases renderAll_cons_cases dialect capacities hu o later with
      ⟨e, hrefusal, h'⟩ | ⟨-, ⟨u, huse, hname, hkind⟩, h'⟩ | ⟨-, huniform, h'⟩
    · rw [h'] at h
      rw [Except.error.inj h] at hrefusal
      exact absurd hrefusal (o.refusal?_ne_conflictingKinds capacities name)
    · rw [h'] at h
      obtain rfl := Error.conflictingKinds.inj (Except.error.inj h)
      exact ⟨u, List.mem_append_left _ huse, o, List.mem_cons_self, hname, rfl, hkind⟩
    · rw [h'] at h
      cases hlater : dialect.renderAll capacities (ofUses (uses ++ [o.use dialect capacities]))
          later with
      | ok result => rw [hlater] at h; cases h
      | error e =>
        rw [hlater] at h
        obtain rfl := Except.error.inj h
        obtain ⟨u, huse, o', ho', hname⟩ := ih huniform hlater
        rw [List.append_assoc] at huse
        exact ⟨u, huse, o', List.mem_cons_of_mem _ ho', hname⟩

/-! ### Compilation -/

/-- No name is missing among the parameters if each is that of an occurrence. -/
theorem find?_isNone_param?_eq_none_iff {found : List Occurrence} {names : List Text} :
    (names.find? fun name =>
        ((ofUses (found.map (Occurrence.use dialect capacities))).param? name).isNone) = none ↔
      ∀ name ∈ names, ∃ o ∈ found, o.name = name := by
  have hmem : ∀ name, name ∈ (found.map (Occurrence.use dialect capacities)).map (·.name) ↔
      ∃ o ∈ found, o.name = name := by
    intro name
    rw [List.map_map, List.mem_map]
    rfl
  rw [List.find?_eq_none]
  refine forall₂_congr fun name _ => ?_
  rw [param?_ofUses_eq, ← hmem]
  split_ifs with h
  · exact iff_of_true Bool.false_ne_true h
  · exact iff_of_false (not_not_intro rfl) h

/-- A text compiles exactly if nothing is wrong with its occurrences, their uses agree, and no name
has a capacity for nothing. -/
theorem exists_compile_eq_ok_iff (hm : dialect.marker ≠ '(') (text : Text) :
    (∃ plan, dialect.compile text capacities = .ok plan) ↔
      (∀ o ∈ (occurrences dialect.marker text).1, o.refusal? capacities = none) ∧
      Uniform ((occurrences dialect.marker text).1.map (Occurrence.use dialect capacities)) ∧
      ∀ name ∈ capacities.names, ∃ o ∈ (occurrences dialect.marker text).1, o.name = name := by
  have hnil : Uniform [] := fun _ h => absurd h List.not_mem_nil
  have hall := @exists_renderAll_eq_ok_iff dialect capacities [] hnil
    (occurrences dialect.marker text).1
  rw [compile_eq capacities hm, ← and_assoc, ← List.nil_append (List.map _ _), ← hall]
  cases hrender : dialect.renderAll capacities (ofUses []) (occurrences dialect.marker text).1 with
  | error e =>
    rw [Dialect.render_of_error hrender]
    simp
  | ok result =>
    obtain ⟨sql, layout⟩ := result
    rw [Dialect.render_of_ok hrender]
    obtain ⟨hfold, -⟩ := of_renderAll hrender
    obtain ⟨rfl, -⟩ := of_foldlM_add hnil hfold
    rw [List.nil_append, ← find?_isNone_param?_eq_none_iff]
    cases capacities.names.find? fun name => ((ofUses ((occurrences dialect.marker text).1.map
      (Occurrence.use dialect capacities))).param? name).isNone <;> simp

end

/-! ### Where references end -/

theorem Text.byteLength_le_of_suffix {s t : Text} (h : s <:+ t) : s.byteLength ≤ t.byteLength := by
  obtain ⟨x, rfl⟩ := h
  rw [byteLength_append]
  omega

theorem Text.byteLength_lt_iff {s t u : Text} (hs : s <:+ u) (ht : t <:+ u) :
    s.byteLength < t.byteLength ↔ s.length < t.length := by
  rcases List.suffix_or_suffix_of_suffix hs ht with ⟨x, rfl⟩ | ⟨x, rfl⟩
  · cases x with
    | nil => simp
    | cons c x =>
      have := c.utf8Size_pos
      simp only [List.cons_append, byteLength_cons, byteLength_append, List.length_cons,
        List.length_append]
      omega
  · rw [byteLength_append, List.length_append]
    omega

namespace Occurrence

/-- The text behind the end of the reference, nearest character first. -/
def through (marker : Char) (o : Occurrence) : Text := o.name.reverse ++ marker :: o.behind

theorem byteLength_through (marker : Char) (o : Occurrence) :
    (o.through marker).byteLength = (o.span marker).stop := by
  simp [through, span, start]
  omega

theorem start_lt_stop (marker : Char) (o : Occurrence) : o.start < (o.span marker).stop := by
  have := marker.utf8Size_pos
  simp only [span, Text.byteLength_cons]
  omega

/-- The one reference ends in front of the other, and in front of the end that this one keeps. -/
def Before (marker : Char) (e o : Occurrence) : Prop :=
  e.through marker <:+ o.behind ∧ (e.through marker).length ≤ o.previous

/-- Each reference begins behind the ends of those in front of it, and the last of these ends is the
one that it keeps. -/
theorem order_listFrom (marker : Char) (behind ahead : Text) :
    (listFrom marker behind ahead).1.Pairwise (Before marker) ∧
      ∀ o ∈ (listFrom marker behind ahead).1, behind <:+ o.behind ∧ behind.length ≤ o.previous ∧
        (o.previous = behind.length ∨ ∃ e ∈ (listFrom marker behind ahead).1,
          e.through marker <:+ o.behind ∧ o.previous = (e.through marker).length) := by
  induction ahead using Reference.scan_induction marker generalizing behind with
  | none ahead hr =>
    rw [listFrom_of_none hr]
    exact ⟨List.Pairwise.nil, fun _ h => absurd h List.not_mem_nil⟩
  | some ahead r hr ih =>
    rw [listFrom_of_some hr]
    obtain ⟨hlater, hmem⟩ := ih (r.name.reverse ++ marker :: (r.lead.reverse ++ behind))
    have hhere : behind <:+ r.lead.reverse ++ behind := List.suffix_append _ _
    have hthrough : behind <:+ r.name.reverse ++ marker :: (r.lead.reverse ++ behind) :=
      hhere.trans ⟨r.name.reverse ++ [marker], by simp⟩
    refine ⟨List.pairwise_cons.mpr ⟨fun o ho => ?_, hlater⟩, fun o ho => ?_⟩
    · exact ⟨(hmem o ho).1, (hmem o ho).2.1⟩
    · rcases List.mem_cons.mp ho with rfl | ho
      · exact ⟨hhere, le_rfl, Or.inl rfl⟩
      · obtain ⟨hsuffix, hle, hprevious⟩ := hmem o ho
        refine ⟨hthrough.trans hsuffix, hthrough.length_le.trans hle, Or.inr ?_⟩
        rcases hprevious with heq | ⟨e, he, h⟩
        · exact ⟨_, List.mem_cons_self, hsuffix, heq⟩
        · exact ⟨e, List.mem_cons_of_mem _ he, h⟩

/-- A field is taken if it holds a placeholder, or if a reference in front of it ends behind the
place where the field begins. -/
theorem fieldTaken_iff {marker : Char} {text front field : Text} {negated : Bool} {o : Occurrence}
    (ho : o ∈ (occurrences marker text).1) (h : o.context = .likeAny front field negated) :
    o.FieldTaken front field ↔ Expansion.placeholder ∈ field ∨
      ∃ e ∈ (occurrences marker text).1, e.start < o.start ∧
        front.byteLength < (e.span marker).stop := by
  obtain ⟨hpairwise, hmem⟩ := order_listFrom marker [] text
  have hfront : front <:+ o.behind := by
    obtain ⟨gap, c, heq, -⟩ := Context.exists_of_ofBehind_eq_likeAny h
    exact ⟨gap ++ c :: field.reverse, by rw [heq]; simp⟩
  rw [FieldTaken, or_comm]
  refine or_congr_right ⟨fun hlt => ?_, ?_⟩
  · rcases (hmem o ho).2.2 with hzero | ⟨e, he, hthrough, hprevious⟩
    · rw [hzero] at hlt
      exact absurd hlt (Nat.not_lt_zero _)
    · rw [hprevious, ← Text.byteLength_lt_iff hfront hthrough, byteLength_through] at hlt
      refine ⟨e, he, ?_, hlt⟩
      have hle := Text.byteLength_le_of_suffix hthrough
      rw [byteLength_through] at hle
      exact (e.start_lt_stop marker).trans_le hle
  · rintro ⟨e, he, hstart, hlt⟩
    obtain ⟨front', later, heq⟩ := List.append_of_mem ho
    have hpairwise' := List.pairwise_append.mp (heq ▸ hpairwise)
    have he : e ∈ front' ++ o :: later := heq ▸ he
    rcases List.mem_append.mp he with he | he
    · obtain ⟨hthrough, hle⟩ := hpairwise'.2.2 e he o List.mem_cons_self
      rw [← byteLength_through, Text.byteLength_lt_iff hfront hthrough] at hlt
      exact hlt.trans_le hle
    · -- the other ones begin at the occurrence or behind its end
      have hle : o.start ≤ e.start := by
        rcases List.mem_cons.mp he with rfl | he
        · exact le_rfl
        · have hthrough := ((List.pairwise_cons.mp hpairwise'.2.1).1 e he).1
          have hle := Text.byteLength_le_of_suffix hthrough
          rw [byteLength_through] at hle
          exact (o.start_lt_stop marker).le.trans hle
      omega

end Occurrence

/-! ### Texts that compile -/

/-- What the references of a text must be for the text to compile. -/
structure Compilable (marker : Char) (capacities : Dict Nat) (found : List Occurrence) : Prop where
  /-- A name with a capacity of its own occurs, and wherever it does it is that of a list. -/
  lists : ∀ name ∈ capacities.names, (∃ o ∈ found, o.name = name) ∧
    ∀ o ∈ found, o.name = name → o.context ≠ .scalar
  /-- No capacity is zero. -/
  positive : ∀ name capacity, capacities.get? name = some capacity → 0 < capacity
  /-- No name is that of a scalar and of a list. -/
  kinds : ∀ a ∈ found, ∀ b ∈ found, a.name = b.name → a.context = .scalar → b.context = .scalar
  /-- No field holds a placeholder, and none begins in front of the end of an earlier reference. -/
  fields : ∀ o ∈ found, ∀ front field negated, o.context = .likeAny front field negated →
    Expansion.placeholder ∉ field ∧
      ∀ earlier ∈ found, earlier.start < o.start → (earlier.span marker).stop ≤ front.byteLength

section

variable {dialect : Dialect} {capacities : Dict Nat}

theorem Context.kind_eq_iff {context context' : Context} (capacity : Nat) :
    context.kind capacity = context'.kind capacity ↔ (context = .scalar ↔ context' = .scalar) := by
  cases context <;> cases context' <;> simp [Context.kind]

theorem Occurrence.refusal?_eq_none_iff {o : Occurrence} :
    o.refusal? capacities = none ↔
      (o.context = .scalar → capacities.get? o.name = none) ∧
      (o.context ≠ .scalar → capacities.get? o.name ≠ some 0) ∧
      ∀ front field negated, o.context = .likeAny front field negated →
        ¬o.FieldTaken front field := by
  unfold refusal?
  cases hcontext : o.context with
  | scalar =>
    dsimp only
    rw [Dict.contains]
    split_ifs with h <;> simpa [Option.isSome_iff_ne_none] using h
  | inList negated =>
    dsimp only
    split_ifs with h <;> simp [h]
  | likeAny front field negated =>
    dsimp only
    split_ifs with h1 h2
    · simp [h1]
    · simp [h2]
    · simp [h1, h2]

theorem uniform_map_use_iff {found : List Occurrence} :
    Uniform (found.map (Occurrence.use dialect capacities)) ↔
      ∀ a ∈ found, ∀ b ∈ found, a.name = b.name → (a.context = .scalar ↔ b.context = .scalar) := by
  rw [uniform_iff]
  simp only [List.forall_mem_map, Occurrence.use]
  refine forall₂_congr fun a _ => forall₂_congr fun b _ => forall_congr' fun hname => ?_
  rw [hname, Context.kind_eq_iff]

theorem compilable_iff {marker : Char} {text : Text} :
    Compilable marker capacities (occurrences marker text).1 ↔
      (∀ o ∈ (occurrences marker text).1, o.refusal? capacities = none) ∧
      Uniform ((occurrences marker text).1.map (Occurrence.use dialect capacities)) ∧
      ∀ name ∈ capacities.names, ∃ o ∈ (occurrences marker text).1, o.name = name := by
  rw [uniform_map_use_iff]
  constructor
  · intro h
    refine ⟨fun o ho => Occurrence.refusal?_eq_none_iff.mpr ⟨fun hscalar => ?_, fun _ hzero => ?_,
      fun front field negated hcontext => ?_⟩, fun a ha b hb hname => ?_, fun name hname => ?_⟩
    · by_contra hsome
      have hname := Dict.mem_names_iff.mpr (Option.ne_none_iff_exists'.mp hsome)
      exact (h.lists o.name hname).2 o ho rfl hscalar
    · exact absurd (h.positive _ _ hzero) (Nat.lt_irrefl 0)
    · rw [Occurrence.fieldTaken_iff ho hcontext, not_or]
      obtain ⟨hfield, hends⟩ := h.fields o ho front field negated hcontext
      refine ⟨hfield, ?_⟩
      rintro ⟨e, he, hstart, hlt⟩
      exact absurd (hends e he hstart) (Nat.not_le.mpr hlt)
    · exact ⟨h.kinds a ha b hb hname, h.kinds b hb a ha hname.symm⟩
    · exact (h.lists name hname).1
  · rintro ⟨hrefusal, hkinds, hnames⟩
    have hone := fun o ho => Occurrence.refusal?_eq_none_iff.mp (hrefusal o ho)
    refine ⟨fun name hname => ⟨hnames name hname, ?_⟩, fun name capacity hget => ?_,
      fun a ha b hb hname => (hkinds a ha b hb hname).mp,
      fun o ho front field negated hcontext => ?_⟩
    · rintro o ho rfl hscalar
      obtain ⟨value, hvalue⟩ := Dict.mem_names_iff.mp hname
      rw [(hone o ho).1 hscalar] at hvalue
      cases hvalue
    · -- a name with a capacity occurs, and is refused there if the capacity is zero
      obtain ⟨o, ho, rfl⟩ := hnames name (Dict.mem_names_iff.mpr ⟨capacity, hget⟩)
      refine Nat.pos_of_ne_zero ?_
      rintro rfl
      by_cases hscalar : o.context = .scalar
      · rw [(hone o ho).1 hscalar] at hget
        cases hget
      · exact (hone o ho).2.1 hscalar hget
    · have htaken := (hone o ho).2.2 front field negated hcontext
      rw [Occurrence.fieldTaken_iff ho hcontext, not_or] at htaken
      refine ⟨htaken.1, fun e he hstart => ?_⟩
      by_contra hlt
      exact htaken.2 ⟨e, he, hstart, Nat.not_le.mp hlt⟩

/-- A name is refused as one of two kinds only where it is that of a scalar and of a list. -/
theorem exists_of_conflictingKinds (hm : dialect.marker ≠ '(') {text name : Text}
    (h : dialect.compile text capacities = .error (.conflictingKinds name)) :
    (∃ a ∈ (occurrences dialect.marker text).1, a.name = name ∧ a.context = .scalar) ∧
      ∃ b ∈ (occurrences dialect.marker text).1, b.name = name ∧ b.context ≠ .scalar := by
  rw [compile_eq capacities hm] at h
  have hall : dialect.renderAll capacities (ofUses []) (occurrences dialect.marker text).1 =
      .error (.conflictingKinds name) := by
    cases hrender : dialect.renderAll capacities (ofUses []) (occurrences dialect.marker text).1 with
    | error e =>
      rw [Dialect.render_of_error hrender] at h
      rw [Except.error.inj h]
    | ok result =>
      -- what is missed at the end is a list
      rw [Dialect.render_of_ok hrender] at h
      split at h <;> cases h
  obtain ⟨u, hu, b, hb, huname, hbname, hkind⟩ :=
    exists_of_renderAll_conflictingKinds (fun _ h => absurd h List.not_mem_nil) hall
  obtain ⟨a, ha, rfl⟩ := List.mem_map.mp hu
  have hname : a.name = b.name := huname.trans hbname.symm
  rw [Occurrence.use, Occurrence.use, hname, ne_eq, Context.kind_eq_iff] at hkind
  by_cases hscalar : a.context = .scalar
  · exact ⟨⟨a, ha, huname, hscalar⟩, b, hb, hbname, fun hb' => hkind (by simp [hscalar, hb'])⟩
  · refine ⟨⟨b, hb, hbname, ?_⟩, a, ha, huname, hscalar⟩
    by_contra hb'
    exact hkind (by simp [hscalar, hb'])

/-- The kind of a parameter is that of each of its references. -/
theorem exists_param?_eq (hm : dialect.marker ≠ '(') {text : Text} {plan : Plan}
    (h : dialect.compile text capacities = .ok plan) {o : Occurrence}
    (ho : o ∈ (occurrences dialect.marker text).1) :
    ∃ param, plan.param? o.name = some param ∧
      param.kind = o.context.kind (dialect.room capacities o.name) := by
  obtain ⟨-, hlayout, huniform⟩ := exists_of_compile_eq hm h
  have huse := List.mem_map_of_mem (f := Occurrence.use dialect capacities) ho
  refine ⟨_, ?_, huniform _ huse⟩
  rw [Plan.param?, hlayout]
  exact param?_ofUses huse

/-- A list has room for as many elements as the expansion of each of its references. -/
theorem capacity_eq_ok (hm : dialect.marker ≠ '(') {text : Text} {plan : Plan}
    (h : dialect.compile text capacities = .ok plan) {o : Occurrence}
    (ho : o ∈ (occurrences dialect.marker text).1) (hlist : o.context ≠ .scalar) :
    plan.capacity o.name = .ok (dialect.room capacities o.name) := by
  obtain ⟨param, hparam, hkind⟩ := exists_param?_eq hm h ho
  rw [Plan.capacity, hparam]
  dsimp only
  rw [Param.capacity?, hkind]
  cases hcontext : o.context with
  | scalar => exact absurd hcontext hlist
  | inList negated => rfl
  | likeAny front field negated => rfl

/-- A parameter is that of some reference. -/
theorem exists_kind_eq (hm : dialect.marker ≠ '(') {text : Text} {plan : Plan}
    (h : dialect.compile text capacities = .ok plan) {param : Param} (hparam : param ∈ plan.params) :
    ∃ o ∈ (occurrences dialect.marker text).1, o.name = param.name ∧
      param.kind = o.context.kind (dialect.room capacities o.name) := by
  obtain ⟨-, hlayout, huniform⟩ := exists_of_compile_eq hm h
  rw [Plan.params, hlayout] at hparam
  obtain ⟨use, huse, rfl⟩ := exists_merge_eq hparam
  have hkind := huniform use huse
  obtain ⟨o, ho, rfl⟩ := List.mem_map.mp huse
  exact ⟨o, ho, rfl, hkind⟩

/-- **Which texts compile**: those of which every reference is in order, and of which no two
references to a name differ in being a list. Then the capacity of a list is its own if it has one and
else that of the dialect, for each of its references; two references to a list never differ in it. -/
theorem compile_ok_iff_compilable (hm : dialect.marker ≠ '(') (text : Text)
    (capacities : Dict Nat) :
    ((∃ plan, dialect.compile text capacities = .ok plan) ↔
      Compilable dialect.marker capacities (occurrences dialect.marker text).1) ∧
    (∀ plan, dialect.compile text capacities = .ok plan →
      (∀ o ∈ (occurrences dialect.marker text).1, o.context ≠ .scalar →
        plan.capacity o.name = .ok ((capacities.get? o.name).getD dialect.capacity)) ∧
      (∀ param ∈ plan.params, ∀ capacity, param.kind = .list capacity →
        capacity = (capacities.get? param.name).getD dialect.capacity) ∧
      plan.sql = (occurrences dialect.marker text).1.flatMap
        (Occurrence.replacement dialect capacities) ++ (occurrences dialect.marker text).2) ∧
    ∀ name, dialect.compile text capacities = .error (.conflictingKinds name) →
      (∃ a ∈ (occurrences dialect.marker text).1, a.name = name ∧ a.context = .scalar) ∧
      ∃ b ∈ (occurrences dialect.marker text).1, b.name = name ∧ b.context ≠ .scalar := by
  refine ⟨?_, fun plan h => ⟨fun _ => capacity_eq_ok hm h, fun param hparam capacity hkind => ?_,
    (exists_of_compile_eq hm h).1⟩, fun _ => exists_of_conflictingKinds hm⟩
  · rw [exists_compile_eq_ok_iff hm, compilable_iff]
  · obtain ⟨o, -, hname, hkind'⟩ := exists_kind_eq hm h hparam
    rw [hkind, hname] at hkind'
    cases hcontext : o.context with
    | scalar => rw [hcontext] at hkind'; cases hkind'
    | inList negated => rw [hcontext] at hkind'; exact Kind.list.inj hkind'
    | likeAny front field negated => rw [hcontext] at hkind'; exact Kind.list.inj hkind'

/-- A list with a capacity of its own, one without, and a scalar between them; and a name that is
that of a list and of a scalar. -/
theorem compile_ok_iff_compilable_two_lists :
    let dialect : Dialect := ⟨⟨':', 3⟩, by decide +kernel, by decide⟩
    let text := "x IN :a OR y = :b OR z NOT LIKE_ANY :a OR w IN :c".toList
    let capacities := Dict.empty.insert ['a'] 2
    dialect.marker ≠ '(' ∧ Compilable dialect.marker capacities (occurrences dialect.marker text).1 ∧
      (∃ plan, dialect.compile text capacities = .ok plan ∧ ∀ param ∈ plan.params, ∀ capacity,
        param.kind = .list capacity → capacity = if param.name = ['a'] then 2 else 3) ∧
      ∃ b ∈ (occurrences dialect.marker "x IN :a OR y = :a".toList).1,
        b.name = ['a'] ∧ b.context ≠ .scalar := by
  intro dialect text capacities
  have hm : dialect.marker ≠ '(' := by decide
  have h : dialect.compile text capacities = .ok
      ⟨text, "x IN (?, ?) OR y = ? OR z NOT LIKE ? AND z NOT LIKE ? OR w IN (?, ?, ?)".toList,
        ⟨8, [⟨['a'], .list 2, true⟩, ⟨['b'], .scalar, false⟩, ⟨['c'], .list 3, false⟩],
          [("a__0".toList, [1, 4]), ("a__1".toList, [2, 5]), (['b'], [3]), ("c__0".toList, [6]),
            ("c__1".toList, [7]), ("c__2".toList, [8])]⟩⟩ := by decide +kernel
  have herror : dialect.compile "x IN :a OR y = :a".toList .empty =
      .error (.conflictingKinds ['a']) := by decide +kernel
  obtain ⟨hiff, hcapacity, -⟩ := compile_ok_iff_compilable hm text capacities
  refine ⟨hm, hiff.mp ⟨_, h⟩, ⟨_, h, fun param hparam capacity hkind => ?_⟩,
    ((compile_ok_iff_compilable hm _ _).2.2 _ herror).2⟩
  rw [(hcapacity _ h).2.1 param hparam capacity hkind, Dict.get?_insert]
  split_ifs <;> rfl

end

end NamedSql
