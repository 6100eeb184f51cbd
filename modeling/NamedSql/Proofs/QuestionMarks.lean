import NamedSql.Proofs.Splices

/-! # The question marks of a plan

A question mark of the SQL is one that the template held, or a placeholder that stands for a
parameter. A compilation neither loses nor repeats one of either sort: each splice keeps the question
marks of the template and writes as many as it registers (`count_flatMap_written`), so the SQL holds
those of the template and one for each place of each reference (`count_placeholder_sql`).

The positions of a plan number its placeholders and nothing else. They are the ordinals of these
among all question marks of the SQL (`Plan.Numbered`) exactly if the template holds none
(`numbered_iff`). -/

namespace NamedSql

open Layout

/-- The number of placeholders that one reference takes. -/
def Kind.width : Kind → Nat
  | .scalar => 1
  | .list capacity => capacity

theorem Param.length_keys (param : Param) : param.keys.length = param.kind.width := by
  unfold keys
  split <;> rename_i hkind <;> simp [hkind, Kind.width]

/-- The number of placeholders that one reference to a name takes, by the parameter of this name. -/
def Plan.width (plan : Plan) (name : Text) : Nat :=
  ((plan.param? name).map fun param => param.kind.width).getD 0

/-- A reference takes as many placeholders as its use has keys. -/
theorem width_eq_of_mem {plan : Plan} {uses : List Param} (hplan : plan.layout = ofUses uses)
    (hu : Uniform uses) {use : Param} (h : use ∈ uses) :
    plan.width use.name = use.keys.length := by
  rw [Plan.width, Plan.param?, hplan, param?_ofUses h, ← keys_merge hu h, Param.length_keys]
  rfl

/-! ### Counting along the splices -/

section

variable {splices : List Splice} (hfair : ∀ s ∈ splices, s.Fair)
include hfair

/-- What goes from the template holds no question mark. -/
theorem count_flatMap_source {marker : Char} (hm : Settings.canMark marker = true) :
    (splices.flatMap (Splice.source marker)).count Expansion.placeholder =
      (splices.flatMap Splice.kept).count Expansion.placeholder := by
  have hmarker : marker ≠ Expansion.placeholder := (canMark_iff.mp hm).2.2.2.2
  induction splices with
  | nil => rfl
  | cons s splices ih =>
    obtain ⟨hs, hrest⟩ := List.forall_mem_cons.mp hfair
    rw [List.flatMap_cons, List.flatMap_cons, List.count_append, List.count_append, ih hrest,
      Splice.source, List.count_append, List.count_append, List.count_eq_zero.mpr hs.dropped,
      List.count_cons_of_ne hmarker, List.count_eq_zero.mpr hs.name]
    rfl

/-- What is written holds a question mark for each key. -/
theorem count_flatMap_written :
    (splices.flatMap Splice.written).count Expansion.placeholder =
      (splices.flatMap Splice.kept).count Expansion.placeholder +
        (splices.flatMap fun s => s.use.keys).length := by
  induction splices with
  | nil => rfl
  | cons s splices ih =>
    obtain ⟨hs, hrest⟩ := List.forall_mem_cons.mp hfair
    rw [List.flatMap_cons, List.flatMap_cons, List.flatMap_cons, List.count_append,
      List.count_append, List.length_append, ih hrest, Splice.written, List.count_append,
      hs.expansion]
    omega

end

namespace Plan.MadeOf

variable {plan : Plan} {marker : Char} {splices : List Splice} {rest : Text}
  (h : plan.MadeOf marker splices rest)
include h

theorem isParam_of_mem_names {name : Text} (hname : name ∈ Reference.names marker plan.source) :
    plan.isParam name = true := by
  rw [h.names] at hname
  obtain ⟨s, hs, rfl⟩ := List.mem_map.mp hname
  rw [Plan.isParam, h.param?_eq hs]
  rfl

theorem width_eq {s : Splice} (hs : s ∈ splices) : plan.width s.use.name = s.use.keys.length :=
  width_eq_of_mem h.layout h.uniform (List.mem_map_of_mem hs)

theorem placeholders_eq : plan.placeholders = (splices.flatMap fun s => s.use.keys).length := by
  rw [Plan.placeholders, h.layout, ← List.flatMap_map]
  rfl

theorem sum_width :
    ((Reference.names marker plan.source).map plan.width).sum = plan.placeholders := by
  rw [h.placeholders_eq, List.length_flatMap, h.names, List.map_map]
  exact congrArg List.sum (List.map_congr_left fun s hs => h.width_eq hs)

theorem count_sql (hm : Settings.canMark marker = true) :
    plan.sql.count Expansion.placeholder =
      plan.source.count Expansion.placeholder + plan.placeholders := by
  rw [h.sql, h.source, h.placeholders_eq, List.count_append, List.count_append,
    count_flatMap_written h.fair, count_flatMap_source h.fair hm]
  omega

end Plan.MadeOf

variable {dialect : Dialect} {capacities : Dict Nat}

/-- **Question marks are conserved**: the SQL of a plan holds those of the template and, for each
reference in it, one if the name is that of a scalar, and as many as its capacity says if it is that
of a list; the latter are the placeholders of the plan. What is written for a reference takes the
place of the reference and of text in front of it that holds no question mark, and all the rest of
the template stands in the SQL as it is, in the same order. -/
theorem count_placeholder_sql {text : Text} {plan : Plan}
    (h : dialect.compile text capacities = .ok plan) :
    (∀ name ∈ Reference.names dialect.marker text, plan.isParam name = true) ∧
      plan.sql.count Expansion.placeholder = text.count Expansion.placeholder +
        ((Reference.names dialect.marker text).map plan.width).sum ∧
      plan.placeholders = ((Reference.names dialect.marker text).map plan.width).sum ∧
      ∃ (splices : List Splice) (rest : Text),
        text = splices.flatMap (Splice.source dialect.marker) ++ rest ∧
        plan.sql = splices.flatMap Splice.written ++ rest ∧
        Reference.names dialect.marker text = splices.map (·.use.name) ∧
        ∀ s ∈ splices, Expansion.placeholder ∉ s.dropped ++ s.use.name ∧
          s.expansion.count Expansion.placeholder = plan.width s.use.name := by
  obtain ⟨rfl, splices, rest, hmade⟩ := exists_madeOf_of_compile h
  rw [hmade.sum_width]
  refine ⟨fun _ => hmade.isParam_of_mem_names, hmade.count_sql dialect.canMark_marker, rfl, splices,
    rest, hmade.source, hmade.sql, hmade.names, fun s hs => ⟨?_, ?_⟩⟩
  · rw [List.mem_append, not_or]
    exact ⟨(hmade.fair s hs).dropped, (hmade.fair s hs).name⟩
  · rw [hmade.width_eq hs, (hmade.fair s hs).expansion]

/-- With the comma as marker, the question mark of this template stays in front of those that the
references have written, and the commas of a group are no references. -/
theorem count_placeholder_sql_comma :
    let dialect : Dialect := ⟨⟨',', 2⟩, by decide +kernel, by decide⟩
    let text := "? = ,x OR a IN ,p".toList
    let plan : Plan := ⟨text, "? = ? OR a IN (?, ?)".toList,
      ⟨3, [⟨['x'], .scalar, false⟩, ⟨['p'], .list 2, false⟩],
        [(['x'], [1]), ("p__0".toList, [2]), ("p__1".toList, [3])]⟩⟩
    dialect.compile text .empty = .ok plan ∧
      plan.sql.count Expansion.placeholder = text.count Expansion.placeholder +
        ((Reference.names dialect.marker text).map plan.width).sum := by
  intro dialect text plan
  have h : dialect.compile text .empty = .ok plan := by decide +kernel
  exact ⟨h, (count_placeholder_sql h).2.1⟩

/-! ### Ordinals -/

/-- An element of lists that are lined up is an element of one of them, behind those in front. -/
theorem getElem?_flatMap_eq_some_iff {α β : Type} {f : α → List β} {l : List α} {n : Nat} {b : β} :
    (l.flatMap f)[n]? = some b ↔ ∃ earlier a later i, l = earlier ++ a :: later ∧
      (f a)[i]? = some b ∧ n = (earlier.flatMap f).length + i := by
  constructor
  · intro h
    induction l generalizing n with
    | nil => cases h
    | cons first l ih =>
      rw [List.flatMap_cons, List.getElem?_append] at h
      split_ifs at h with hn
      · exact ⟨[], first, l, n, rfl, h, by simp⟩
      · obtain ⟨earlier, a, later, i, rfl, hb, hi⟩ := ih h
        refine ⟨first :: earlier, a, later, i, rfl, hb, ?_⟩
        rw [List.flatMap_cons, List.length_append]
        omega
  · rintro ⟨earlier, a, later, i, rfl, hb, rfl⟩
    have hi : i < (f a).length := (List.getElem?_eq_some_iff.mp hb).1
    rw [List.flatMap_append, List.flatMap_cons, List.getElem?_append_right (Nat.le_add_right _ _),
      Nat.add_sub_cancel_left, List.getElem?_append_left hi, hb]

/-- **The positions of a plan are ordinals**: every question mark of the SQL is counted as a
placeholder and has one position, and the positions of a key are the ordinals, among all question
marks of the SQL, of those that the splices have written for the key. -/
structure Plan.Numbered (plan : Plan) (splices : List Splice) : Prop where
  count : plan.sql.count Expansion.placeholder = plan.placeholders
  sum : (plan.entries.map (·.2.length)).sum = plan.placeholders
  ordinal : ∀ key positions position, plan.positions key = .ok positions →
    (position ∈ positions ↔ ∃ earlier s later i, splices = earlier ++ s :: later ∧
      s.use.keys[i]? = some key ∧
      position = (earlier.flatMap Splice.written ++ s.kept).count Expansion.placeholder + i + 1)

namespace Plan.MadeOf

variable {plan : Plan} {marker : Char} {splices : List Splice} {rest : Text}
  (h : plan.MadeOf marker splices rest)
include h

/-- The positions of a key count the keys of the splices. -/
theorem mem_positions_iff {key : Text} {positions : List Nat} {position : Nat}
    (hkey : plan.positions key = .ok positions) :
    position ∈ positions ↔ ∃ earlier s later i, splices = earlier ++ s :: later ∧
      s.use.keys[i]? = some key ∧
      position = (earlier.flatMap fun s => s.use.keys).length + i + 1 := by
  rw [(h.positions_eq_ok_iff.mp hkey).2, mem_positionsOf, List.flatMap_map]
  constructor
  · rintro ⟨n, rfl, hn⟩
    obtain ⟨earlier, s, later, i, hsplices, hi, rfl⟩ := getElem?_flatMap_eq_some_iff.mp hn
    exact ⟨earlier, s, later, i, hsplices, hi, rfl⟩
  · rintro ⟨earlier, s, later, i, hsplices, hi, rfl⟩
    exact ⟨_, rfl, getElem?_flatMap_eq_some_iff.mpr ⟨earlier, s, later, i, hsplices, hi, rfl⟩⟩

/-- Where the template holds no question mark, those in front of what a splice writes were written
by the splices before it. -/
theorem count_written_of_not_mem (hq : Expansion.placeholder ∉ plan.source)
    {earlier later : List Splice} {s : Splice} (hsplices : splices = earlier ++ s :: later) :
    (earlier.flatMap Splice.written ++ s.kept).count Expansion.placeholder =
      (earlier.flatMap fun s => s.use.keys).length := by
  subst hsplices
  -- what is kept is part of the template
  rw [h.source, List.flatMap_append, List.flatMap_cons, Splice.source] at hq
  simp only [List.mem_append, not_or] at hq
  have hfair : ∀ s ∈ earlier, s.Fair := fun s hs => h.fair s (List.mem_append_left _ hs)
  have hkept : Expansion.placeholder ∉ earlier.flatMap Splice.kept := by
    intro hmem
    obtain ⟨t, ht, hc⟩ := List.mem_flatMap.mp hmem
    exact hq.1.1 (List.mem_flatMap.mpr ⟨t, ht, List.mem_append_left _ hc⟩)
  rw [List.count_append, count_flatMap_written hfair, List.count_eq_zero.mpr hkept,
    List.count_eq_zero.mpr hq.1.2.1.1]
  omega

theorem numbered_of_not_mem (hm : Settings.canMark marker = true)
    (hq : Expansion.placeholder ∉ plan.source) : plan.Numbered splices where
  count := by rw [h.count_sql hm, List.count_eq_zero.mpr hq, Nat.zero_add]
  sum := h.consistent.sum_lengths
  ordinal key positions position hkey := by
    rw [h.mem_positions_iff hkey]
    constructor
    · rintro ⟨earlier, s, later, i, hsplices, hi, rfl⟩
      exact ⟨earlier, s, later, i, hsplices, hi, by rw [h.count_written_of_not_mem hq hsplices]⟩
    · rintro ⟨earlier, s, later, i, hsplices, hi, rfl⟩
      exact ⟨earlier, s, later, i, hsplices, hi, by rw [h.count_written_of_not_mem hq hsplices]⟩

end Plan.MadeOf

/-- **The positions are ordinals exactly if the template holds no question mark.** One that it holds
stays in the SQL and is not counted. -/
theorem numbered_iff {text : Text} {plan : Plan} (h : dialect.compile text capacities = .ok plan) :
    (∃ splices rest, plan.MadeOf dialect.marker splices rest) ∧
      (∀ splices rest, plan.MadeOf dialect.marker splices rest →
        (plan.Numbered splices ↔ Expansion.placeholder ∉ text)) ∧
      plan.sql.count Expansion.placeholder =
        text.count Expansion.placeholder + plan.placeholders ∧
      (plan.entries.map (·.2.length)).sum = plan.placeholders := by
  obtain ⟨rfl, splices, rest, hmade⟩ := exists_madeOf_of_compile h
  have hcount := hmade.count_sql dialect.canMark_marker
  refine ⟨⟨splices, rest, hmade⟩, fun splices rest hmade => ?_, hcount,
    hmade.consistent.sum_lengths⟩
  refine ⟨fun hnumbered => ?_, hmade.numbered_of_not_mem dialect.canMark_marker⟩
  rw [hnumbered.count] at hcount
  exact List.count_eq_zero.mp (by omega)

theorem numbered_iff_in_list :
    let text := "a = :a AND x IN :p".toList
    let capacities := Dict.empty.insert ['p'] 2
    let plan : Plan := ⟨text, "a = ? AND x IN (?, ?)".toList,
      ⟨3, [⟨['a'], .scalar, false⟩, ⟨['p'], .list 2, false⟩],
        [(['a'], [1]), ("p__0".toList, [2]), ("p__1".toList, [3])]⟩⟩
    Dialect.standard.compile text capacities = .ok plan ∧
      ∃ splices rest, plan.MadeOf Dialect.standard.marker splices rest ∧
        plan.Numbered splices := by
  intro text capacities plan
  have h : Dialect.standard.compile text capacities = .ok plan := by decide +kernel
  have hq : Expansion.placeholder ∉ text := by decide +kernel
  obtain ⟨⟨splices, rest, hmade⟩, hiff, -⟩ := numbered_iff h
  exact ⟨h, splices, rest, hmade, (hiff splices rest hmade).mpr hq⟩

/-- The placeholder of `b` is the second question mark of this SQL, and its position is 1. -/
theorem not_numbered_question_mark :
    let text := "a = ? AND b = :b".toList
    let plan : Plan := ⟨text, "a = ? AND b = ?".toList,
      ⟨1, [⟨['b'], .scalar, false⟩], [(['b'], [1])]⟩⟩
    Dialect.standard.compile text .empty = .ok plan ∧
      plan.sql.count Expansion.placeholder = 2 ∧ plan.placeholders = 1 ∧
      plan.positions ['b'] = .ok [1] ∧ ∀ splices, ¬plan.Numbered splices := by
  intro text plan
  have hcount : plan.sql.count Expansion.placeholder = 2 := by decide +kernel
  refine ⟨by decide +kernel, hcount, rfl, rfl, fun splices hnumbered => ?_⟩
  have htwo := hnumbered.count
  rw [hcount] at htwo
  cases htwo

end NamedSql
