import NamedSql.Proofs.Filling
import NamedSql.Proofs.Splices

/-! # Which parameters a key belongs to

A key has a position for each reference to a parameter that it is a key of (`length_positions`).
Usually there is one such parameter. But the name of a scalar may be spelled like the slot key of an
element of a list, and then the two share a key: it has the positions of both, and what is bound to
the one is sent for the other.

So a plan counts the references to each parameter apart (`Plan.Counted`), and keeps the positions of
any two parameters apart (`Plan.Separate`), exactly if it is unambiguous (`positions_owned_iff`). -/

namespace NamedSql

open Layout

/-! ### Counting uses -/

/-- A key is used as often as parameters that have it. -/
theorem count_flatMap_keys (uses : List Param) (key : Text) :
    (uses.flatMap Param.keys).count key = uses.countP fun use => decide (key ∈ use.keys) := by
  induction uses with
  | nil => rfl
  | cons use uses ih =>
    rw [List.flatMap_cons, List.count_append, ih, List.countP_cons, Nat.add_comm]
    refine congrArg _ ?_
    by_cases h : key ∈ use.keys
    · rw [List.count_eq_one_of_mem use.nodup_keys h, if_pos (decide_eq_true h)]
    · rw [List.count_eq_zero.mpr h, if_neg (by simpa using h)]

/-- Where `a` satisfies `p`, as many elements satisfy `p` as are `a` exactly if no other one does. -/
theorem countP_eq_count_iff {α : Type} [BEq α] [LawfulBEq α] {p : α → Bool} {a : α} (ha : p a = true)
    (l : List α) : l.countP p = l.count a ↔ ∀ b ∈ l, p b = true → b = a := by
  constructor
  · intro hcount b hb hpb
    -- the elements that are `a` are among those that satisfy `p`, and there are as many of them
    have hsub : (l.filter (· == a)).Sublist (l.filter p) := by
      refine List.monotone_filter_right l fun c hc => ?_
      rw [beq_iff_eq.mp hc]
      exact ha
    have hlength : (l.filter (· == a)).length = (l.filter p).length := by
      rw [← List.countP_eq_length_filter, ← List.countP_eq_length_filter, hcount]
      rfl
    have hmem : b ∈ l.filter (· == a) := by
      rw [hsub.eq_of_length hlength]
      exact List.mem_filter.mpr ⟨hb, hpb⟩
    exact beq_iff_eq.mp (List.mem_filter.mp hmem).2
  · intro hall
    refine List.countP_congr fun b hb => ?_
    constructor
    · exact fun hpb => beq_iff_eq.mpr (hall b hb hpb)
    · intro hba
      rw [beq_iff_eq.mp hba]
      exact ha

namespace Plan.MadeOf

variable {plan : Plan} {marker : Char} {splices : List Splice} {rest : Text}
  (h : plan.MadeOf marker splices rest)
include h

/-- The parameters are those that the template refers to, in the order of their first references. -/
theorem map_name_params :
    plan.params.map (·.name) = (Reference.names marker plan.source).eraseDups := by
  rw [Plan.params, h.layout, names_ofUses, h.names, List.map_map]
  rfl

theorem mem_names {param : Param} (hparam : param ∈ plan.params) :
    param.name ∈ Reference.names marker plan.source := by
  rw [← List.mem_eraseDups, ← h.map_name_params]
  exact List.mem_map_of_mem hparam

theorem keysOf_name {param : Param} (hparam : param ∈ plan.params) :
    plan.keysOf param.name = param.keys := by
  rw [Plan.params, h.layout] at hparam
  obtain ⟨use, huse, rfl⟩ := exists_merge_eq hparam
  obtain ⟨s, hs, rfl⟩ := List.mem_map.mp huse
  have hfound : plan.param? (merge (splices.map Splice.use) s.use.name).name = _ := h.param?_eq hs
  rw [Plan.keysOf, hfound]
  rfl

theorem exists_positions {param : Param} (hparam : param ∈ plan.params) {key : Text}
    (hkey : key ∈ param.keys) : ∃ positions, plan.positions key = .ok positions := by
  rw [Plan.params, h.layout] at hparam
  exact ⟨_, h.positions_eq_ok_iff.mpr ⟨(mem_flatMap_keys h.uniform).mpr ⟨param, hparam, hkey⟩, rfl⟩⟩

/-- A key that is recorded has a position. -/
theorem positions_ne_nil {key : Text} {positions : List Nat}
    (hkey : plan.positions key = .ok positions) : positions ≠ [] := by
  obtain ⟨hmem, rfl⟩ := h.positions_eq_ok_iff.mp hkey
  exact positionsOf_ne_nil hmem

/-- Different keys have no position in common. -/
theorem disjoint_positions {key other : Text} (hne : key ≠ other) {positions others : List Nat}
    (hkey : plan.positions key = .ok positions) (hother : plan.positions other = .ok others) :
    positions.Disjoint others := by
  rw [(h.positions_eq_ok_iff.mp hkey).2, (h.positions_eq_ok_iff.mp hother).2]
  exact disjoint_positionsOf hne _

theorem length_positions {key : Text} {positions : List Nat}
    (hkey : plan.positions key = .ok positions) :
    positions.length =
      (Reference.names marker plan.source).countP fun name => decide (key ∈ plan.keysOf name) := by
  rw [(h.positions_eq_ok_iff.mp hkey).2, length_positionsOf, count_flatMap_keys, h.names,
    List.countP_map, List.countP_map]
  refine List.countP_congr fun s hs => ?_
  rw [Function.comp, Function.comp, h.keysOf_eq hs]

end Plan.MadeOf

/-! ### Plans that tell their parameters apart -/

/-- A key of a parameter has a position for each reference to the parameter, and no more. -/
def Plan.Counted (plan : Plan) (marker : Char) : Prop :=
  ∀ param ∈ plan.params, ∀ key ∈ param.keys, ∀ positions, plan.positions key = .ok positions →
    positions.length = (Reference.names marker plan.source).count param.name

/-- Keys of two parameters have no position in common. -/
def Plan.Separate (plan : Plan) : Prop :=
  ∀ a ∈ plan.params, ∀ b ∈ plan.params, a.name ≠ b.name →
    ∀ key ∈ a.keys, ∀ other ∈ b.keys, ∀ positions others, plan.positions key = .ok positions →
      plan.positions other = .ok others → positions.Disjoint others

namespace Plan.MadeOf

variable {plan : Plan} {marker : Char} {splices : List Splice} {rest : Text}
  (h : plan.MadeOf marker splices rest)
include h

theorem counted_iff : plan.Counted marker ↔ plan.Unambiguous := by
  -- for one key: its positions are as many as they should be if it is no key of another name
  have hcount : ∀ param ∈ plan.params, ∀ key ∈ param.keys, ∀ positions,
      plan.positions key = .ok positions →
        (positions.length = (Reference.names marker plan.source).count param.name ↔
          ∀ name ∈ Reference.names marker plan.source, key ∈ plan.keysOf name →
            name = param.name) := by
    intro param hparam key hkey positions hpositions
    have hown : decide (key ∈ plan.keysOf param.name) = true := by
      rw [h.keysOf_name hparam]
      exact decide_eq_true hkey
    rw [h.length_positions hpositions,
      countP_eq_count_iff (p := fun name => decide (key ∈ plan.keysOf name)) hown]
    simp only [decide_eq_true_iff]
  rw [Plan.unambiguous_iff]
  constructor
  · intro hcounted a ha b hb key hkeya hkeyb
    obtain ⟨positions, hpositions⟩ := h.exists_positions ha hkeya
    have honly := (hcount a ha key hkeya positions hpositions).mp
      (hcounted a ha key hkeya positions hpositions)
    exact (honly b.name (h.mem_names hb) (by rwa [h.keysOf_name hb])).symm
  · intro hshared param hparam key hkey positions hpositions
    refine (hcount param hparam key hkey positions hpositions).mpr fun name hname hkey' => ?_
    have hname' : name ∈ plan.params.map (·.name) := by
      rw [h.map_name_params]
      exact List.mem_eraseDups.mpr hname
    obtain ⟨other, hother, rfl⟩ := List.mem_map.mp hname'
    rw [h.keysOf_name hother] at hkey'
    exact hshared other hother param hparam key hkey' hkey

theorem separate_iff : plan.Separate ↔ plan.Unambiguous := by
  rw [Plan.unambiguous_iff]
  constructor
  · intro hseparate a ha b hb key hkeya hkeyb
    by_contra hne
    -- a key that is shared is one whose positions are disjoint from themselves, but it has some
    obtain ⟨positions, hpositions⟩ := h.exists_positions ha hkeya
    have hself := hseparate a ha b hb hne key hkeya key hkeyb positions positions hpositions
      hpositions
    obtain ⟨position, hposition⟩ := List.exists_mem_of_ne_nil _ (h.positions_ne_nil hpositions)
    exact hself hposition hposition
  · intro hshared a ha b hb hne key hkey other hother positions others hpositions hothers
    have hkeys : key ≠ other := by
      rintro rfl
      exact hne (hshared a ha b hb key hkey hother)
    exact h.disjoint_positions hkeys hpositions hothers

end Plan.MadeOf

variable {dialect : Dialect} {capacities : Dict Nat}

/-- **A parameter owns its keys exactly if no scalar is called like an element of a list.** In any
plan, each key of a parameter has a position for every reference to a parameter that has this key. -/
theorem positions_owned_iff {text : Text} {plan : Plan}
    (h : dialect.compile text capacities = .ok plan) :
    plan.source = text ∧
      plan.params.map (·.name) = (Reference.names dialect.marker text).eraseDups ∧
      (∀ param ∈ plan.params, ∀ key ∈ param.keys, ∃ positions,
        plan.positions key = .ok positions ∧ positions.length =
          (Reference.names dialect.marker text).countP fun name => decide (key ∈ plan.keysOf name)) ∧
      (plan.Counted dialect.marker ↔ plan.Unambiguous) ∧
      (plan.Separate ↔ plan.Unambiguous) := by
  obtain ⟨rfl, splices, rest, hmade⟩ := exists_madeOf_of_compile h
  refine ⟨rfl, hmade.map_name_params, fun param hparam key hkey => ?_, hmade.counted_iff,
    hmade.separate_iff⟩
  obtain ⟨positions, hpositions⟩ := hmade.exists_positions hparam hkey
  exact ⟨positions, hpositions, hmade.length_positions hpositions⟩

/-- Two references to a list and one to a scalar whose name ends like a slot key of another list. -/
theorem positions_owned_iff_underscores :
    let text := "x IN :a OR y = :b__0 OR z IN :a".toList
    let capacities := Dict.empty.insert ['a'] 1
    let plan : Plan := ⟨text, "x IN (?) OR y = ? OR z IN (?)".toList,
      ⟨3, [⟨['a'], .list 1, false⟩, ⟨"b__0".toList, .scalar, false⟩],
        [("a__0".toList, [1, 3]), ("b__0".toList, [2])]⟩⟩
    Dialect.standard.compile text capacities = .ok plan ∧
      plan.Counted Dialect.standard.marker ∧ plan.Separate := by
  intro text capacities plan
  have h : Dialect.standard.compile text capacities = .ok plan := by decide +kernel
  have hclash : plan.Unambiguous := by decide +kernel
  obtain ⟨-, -, -, hcounted, hseparate⟩ := positions_owned_iff h
  exact ⟨h, hcounted.mpr hclash, hseparate.mpr hclash⟩

/-- The scalar `a__0` takes the key of the only element of the list `a`: the key has two positions
for the one reference to the scalar, and the value of the scalar is sent in place of the element. -/
theorem not_counted_slot_key :
    let text := "x IN :a AND y = :a__0".toList
    let capacities := Dict.empty.insert ['a'] 1
    let plan : Plan := ⟨text, "x IN (?) AND y = ?".toList,
      ⟨2, [⟨['a'], .list 1, false⟩, ⟨"a__0".toList, .scalar, false⟩], [("a__0".toList, [1, 2])]⟩⟩
    let bindings := Dict.ofList [(['a'], .list [.int 1]), ("a__0".toList, .int 2)]
    Dialect.standard.compile text capacities = .ok plan ∧
      (Reference.names ':' text).count "a__0".toList = 1 ∧
      plan.positions "a__0".toList = .ok [1, 2] ∧ ¬plan.Counted ':' ∧ ¬plan.Separate ∧
      plan.bind bindings = .ok ⟨[.int 2, .int 2]⟩ := by
  intro text capacities plan bindings
  have hnames : (Reference.names ':' text).count "a__0".toList = 1 := by decide +kernel
  have hpositions : plan.positions "a__0".toList = .ok [1, 2] := by decide +kernel
  refine ⟨by decide +kernel, hnames, hpositions, fun hcounted => ?_, fun hseparate => ?_, rfl⟩
  · have hlength := hcounted _ (List.mem_cons_of_mem _ List.mem_cons_self) _ List.mem_cons_self _
      hpositions
    rw [show plan.source = text from rfl, hnames] at hlength
    cases hlength
  · have hdisjoint := hseparate _ List.mem_cons_self _
      (List.mem_cons_of_mem _ List.mem_cons_self) (by decide) "a__0".toList (by decide +kernel)
      "a__0".toList (by decide +kernel) _ _ hpositions hpositions
    exact hdisjoint List.mem_cons_self List.mem_cons_self

end NamedSql
