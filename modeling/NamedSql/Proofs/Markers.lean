import NamedSql.Proofs.Ownership
import NamedSql.Proofs.Spans

/-! # Markers and names

A marker must be no letter, number or underscore, and a name is a run of word characters. The two
classes do not fit: a combining mark that is no letter, a connector other than the underscore and a
join control can be markers and stand in names (`isWord_iff_of_canMark`).

What such a marker does shows in two references one right after the other, as in `:a:b`. A name ends
where the marker begins if the marker is no word character (`first?_pair`), and the two references
are two parameters; otherwise it goes on over the marker (`first?_pair_of_isWord`), and the second
reference is part of the name of the first. So no name of any template holds the marker exactly if
the marker is no word character (`marker_not_mem_name_iff`). -/

namespace NamedSql

/-! ### Character classes -/

namespace RangeTable

/-- A table contains another one if each range of that one lies in a range of its own. -/
theorem contains_of_ranges {a b : RangeTable}
    (h : ∀ r ∈ a.ranges, ∃ s ∈ b.ranges, s.1 ≤ r.1 ∧ r.2 ≤ s.2) {n : Nat}
    (hn : a.contains n = true) : b.contains n = true := by
  obtain ⟨r, hr, h1, h2⟩ := (contains_iff a n).mp hn
  obtain ⟨s, hs, h3, h4⟩ := h r hr
  exact (contains_iff b n).mpr ⟨s, hs, h3.trans h1, h2.trans h4⟩

end RangeTable

/-- Decimal digits are numbers. -/
theorem isNumber_of_isDecimalDigit {c : Char} (h : isDecimalDigit c = true) : isNumber c = true :=
  RangeTable.contains_of_ranges (by decide +kernel) h

/-- The markers that may stand in names are marks, connectors and join controls. -/
theorem isWord_iff_of_canMark {c : Char} (h : Settings.canMark c = true) :
    isWord c = true ↔
      (isMark c = true ∨ isConnector c = true ∨ isJoinControl c = true) ∧ isRecent c = false := by
  obtain ⟨hletter, hnumber, -, -, -⟩ := canMark_iff.mp h
  have hdigit : isDecimalDigit c = false := by
    by_contra hd
    rw [isNumber_of_isDecimalDigit (by simpa using hd)] at hnumber
    cases hnumber
  simp [isWord, hletter, hdigit, or_assoc]

/-! ### Names of a plan -/

namespace Reference

/-- A name holds word characters only. -/
theorem isWord_of_mem_names {marker : Char} {text name : Text} (h : name ∈ names marker text) :
    ∀ c ∈ name, isWord c = true := by
  induction text using scan_induction marker with
  | none text hr =>
    rw [names_of_none hr] at h
    exact absurd h List.not_mem_nil
  | some text r hr ih =>
    rw [names_of_some hr] at h
    rcases List.mem_cons.mp h with rfl | h
    · exact fun c => isWord_of_mem_name hr
    · exact ih h

end Reference

/-- The names of a plan hold no marker that is no word character. -/
theorem marker_not_mem_name {dialect : Dialect} (hm : isWord dialect.marker = false) {text : Text}
    {capacities : Dict Nat} {plan : Plan} (h : dialect.compile text capacities = .ok plan)
    {param : Param} (hparam : param ∈ plan.params) : dialect.marker ∉ param.name := by
  obtain ⟨-, splices, rest, hmade⟩ := exists_madeOf_of_compile h
  intro hmem
  rw [Reference.isWord_of_mem_names (hmade.mem_names hparam) _ hmem] at hm
  cases hm

/-! ### Two references one right after the other -/

namespace Reference

/-- A name that can be told apart from the marker: word characters, none of them the marker. -/
structure IsName (marker : Char) (name : Text) : Prop where
  ne_nil : name ≠ []
  word : ∀ c ∈ name, isWord c = true
  free : marker ∉ name

/-- A reference to each of two names, the second one right after the first. -/
def pair (marker : Char) (first second : Text) : Text := marker :: (first ++ marker :: second)

/-- A run of word characters ends where the rest begins with another character. -/
theorem takeWhile_dropWhile_append {name rest : Text} (hword : ∀ c ∈ name, isWord c = true)
    (hrest : ∀ c ∈ rest.head?, isWord c = false) :
    (name ++ rest).takeWhile isWord = name ∧ (name ++ rest).dropWhile isWord = rest := by
  rw [List.takeWhile_append_of_pos hword, List.dropWhile_append_of_pos hword]
  cases rest with
  | nil => simp
  | cons c rest => simp [hrest c rfl]

/-- A text that begins with a marker and a name begins with a reference. -/
theorem first?_marker_append {marker : Char} {name : Text} (rest : Text) (hne : name ≠ [])
    (hhead : name.head? ≠ some marker) (hword : ∀ c ∈ name, isWord c = true)
    (hrest : ∀ c ∈ rest.head?, isWord c = false) :
    first? marker (marker :: (name ++ rest)) = some ⟨[], name, rest⟩ := by
  obtain ⟨htake, hdrop⟩ := takeWhile_dropWhile_append hword hrest
  have hstart : (name ++ rest).head? = name.head? := List.head?_append_of_ne_nil _ hne
  rw [first?_eq_firstAfter?, firstAfter?, htake, hdrop, hstart, if_pos ⟨rfl, rfl, hhead, hne⟩]

section

variable {marker : Char} {first second : Text} (hfirst : IsName marker first)
  (hsecond : IsName marker second)
include hfirst

theorem IsName.head?_append_ne (rest : Text) : (first ++ rest).head? ≠ some marker := by
  rw [List.head?_append_of_ne_nil _ hfirst.ne_nil]
  exact fun h => hfirst.free (List.mem_of_head? h)

/-- A marker that is no word character ends the first name. -/
theorem first?_pair (hm : isWord marker = false) :
    first? marker (pair marker first second) = some ⟨[], first, marker :: second⟩ := by
  refine first?_marker_append _ hfirst.ne_nil ?_ hfirst.word ?_
  · simpa using hfirst.head?_append_ne []
  · rintro c ⟨⟩
    exact hm

include hsecond in
/-- A marker that is a word character takes the second reference into the first name. -/
theorem first?_pair_of_isWord (hm : isWord marker = true) :
    first? marker (pair marker first second) = some ⟨[], first ++ marker :: second, []⟩ := by
  have hword : ∀ c ∈ first ++ marker :: second, isWord c = true := by
    simp only [List.mem_append, List.mem_cons]
    rintro c (hc | rfl | hc)
    · exact hfirst.word c hc
    · exact hm
    · exact hsecond.word c hc
  have h := first?_marker_append [] (List.append_ne_nil_of_left_ne_nil hfirst.ne_nil _)
    (hfirst.head?_append_ne _) hword fun c hc => by cases hc
  rwa [List.append_nil] at h

end

end Reference

section

variable {dialect : Dialect} {capacities : Dict Nat}

/-- A run that begins with a reference to a scalar. -/
theorem run_of_scalar {behind ahead : Text} {layout : Layout} {r : Reference}
    (h : Reference.first? dialect.marker ahead = some r)
    (hcontext : Context.ofBehind (r.lead.reverse ++ behind) = .scalar) :
    (dialect.run capacities ⟨behind, ahead, layout⟩).2 =
      if capacities.contains r.name then .error (.listRequired r.name)
      else match layout.addScalar r.name with
        | .error e => .error e
        | .ok layout => (dialect.run capacities
            ⟨Expansion.placeholder :: (r.lead.reverse ++ behind), r.tail, layout⟩).2 := by
  have hstep := @Dialect.step?_of_some dialect capacities ⟨behind, ahead, layout⟩ r h
  dsimp only at hstep
  rw [hcontext, Dialect.expand] at hstep
  split_ifs at hstep ⊢ with hcap
  · rw [Dialect.run_of_step?_eq_error hstep]
  · cases hadd : layout.addScalar r.name with
    | error e =>
      rw [hadd] at hstep
      rw [Dialect.run_of_step?_eq_error hstep]
    | ok layout' =>
      rw [hadd] at hstep
      rw [Dialect.run_of_step?_eq_ok hstep]
      rfl

/-- A run that fails leaves no plan. -/
theorem compile_of_run_eq_error {text : Text} {e : Error}
    (h : (dialect.run capacities (.ofText text)).2 = .error e) :
    dialect.compile text capacities = .error e := by
  rw [Dialect.compile, h]

/-- The plan of a run that takes its names for scalars, if it has one. -/
theorem compile_eq_ok_iff_of_run {text : Text} {draft : Draft}
    (h : (dialect.run capacities (.ofText text)).2 = .ok draft)
    (hfree : ∀ param ∈ draft.layout.params, capacities.contains param.name = false) {plan : Plan} :
    dialect.compile text capacities = .ok plan ↔
      capacities = .empty ∧ plan = ⟨text, draft.text, draft.layout⟩ := by
  rw [Dialect.compile, h]
  dsimp only
  split
  · rename_i name hname
    refine iff_of_false (fun h => by cases h) ?_
    rintro ⟨rfl, -⟩
    cases hname
  · rename_i hnames
    -- a name with a capacity is that of a parameter
    have hempty : capacities = .empty := by
      refine Dict.ext_get? fun name => Option.eq_none_iff_forall_ne_some.mpr fun capacity hget => ?_
      have hsome := List.find?_eq_none.mp hnames name (Dict.mem_names_iff.mpr ⟨capacity, hget⟩)
      obtain ⟨param, hparam⟩ : ∃ param, draft.layout.param? name = some param :=
        Option.ne_none_iff_exists'.mp (by simpa using hsome)
      have hname : param.name = name := by simpa using List.find?_some hparam
      have hnone := hfree param (List.mem_of_find?_eq_some hparam)
      rw [Dict.contains, hname, hget] at hnone
      cases hnone
    simp [hempty, eq_comm]

end

/-! ### What the two references compile to -/

open Reference

/-- The layout of a scalar. -/
def Layout.ofName (name : Text) : Layout := ⟨1, [⟨name, .scalar, false⟩], [(name, [1])]⟩

/-- The layout of two scalars. -/
def Layout.ofNames (first second : Text) : Layout :=
  ⟨2, [⟨first, .scalar, false⟩, ⟨second, .scalar, false⟩], [(first, [1]), (second, [2])]⟩

/-- The plan of two references one right after the other: of one scalar if the marker goes on with
the name in front of it, else of two. -/
def Plan.ofPair (marker : Char) (first second : Text) : Plan :=
  if isWord marker then
    ⟨pair marker first second, Expansion.single, .ofName (first ++ marker :: second)⟩
  else ⟨pair marker first second, Expansion.single ++ Expansion.single, .ofNames first second⟩

section

variable {dialect : Dialect} {capacities : Dict Nat} {first second : Text}
  (hfirst : IsName dialect.marker first) (hsecond : IsName dialect.marker second)
include hfirst hsecond

theorem run_pair (hm : isWord dialect.marker = false) (hne : first ≠ second) :
    (dialect.run capacities (.ofText (pair dialect.marker first second))).2 =
      if capacities.contains first then .error (.listRequired first)
      else if capacities.contains second then .error (.listRequired second)
      else .ok ⟨Expansion.single ++ Expansion.single, [], .ofNames first second⟩ := by
  have hempty : Context.ofBehind [] = .scalar := by decide +kernel
  have hone : Context.ofBehind Expansion.single = .scalar := by decide +kernel
  have hrest : first? dialect.marker (dialect.marker :: second) = some ⟨[], second, []⟩ := by
    have h := first?_marker_append [] hsecond.ne_nil
      (by simpa using hsecond.head?_append_ne []) hsecond.word fun c hc => by cases hc
    rwa [List.append_nil] at h
  have hadd : (Layout.ofName first).addScalar second = .ok (.ofNames first second) := by
    simp [Layout.ofName, Layout.ofNames, Layout.addScalar, Layout.declare, Layout.push,
      Layout.record, hne, Except.map]
  have hrun := @run_of_scalar dialect capacities _ _ (.ofName first) _ hrest hone
  rw [hadd] at hrun
  refine (run_of_scalar (first?_pair hfirst hm) hempty).trans ?_
  split_ifs with h1 h2
  · rfl
  · exact hrun.trans (if_pos h2)
  · refine hrun.trans ((if_neg h2).trans ?_)
    dsimp only
    rw [Dialect.run_of_step?_eq_none (Dialect.step?_of_none (first?_of_none rfl))]
    rfl

theorem run_pair_of_isWord (hm : isWord dialect.marker = true) :
    (dialect.run capacities (.ofText (pair dialect.marker first second))).2 =
      if capacities.contains (first ++ dialect.marker :: second) then
        .error (.listRequired (first ++ dialect.marker :: second))
      else .ok ⟨Expansion.single, [], .ofName (first ++ dialect.marker :: second)⟩ := by
  have hempty : Context.ofBehind [] = .scalar := by decide +kernel
  refine (run_of_scalar (first?_pair_of_isWord hfirst hsecond hm) hempty).trans ?_
  split_ifs with h1
  · rfl
  · show (dialect.run capacities ⟨Expansion.single, [], .ofName _⟩).2 = _
    rw [Dialect.run_of_step?_eq_none (Dialect.step?_of_none (first?_of_none rfl))]

/-- **Two references** one right after the other compile if nothing is set for their names. -/
theorem compile_pair_eq_ok_iff (hne : first ≠ second) {plan : Plan} :
    dialect.compile (pair dialect.marker first second) capacities = .ok plan ↔
      capacities = .empty ∧ plan = .ofPair dialect.marker first second := by
  -- a name that has a capacity is no scalar
  have hset : ∀ {name e}, capacities.contains name = true →
      (dialect.run capacities (.ofText (pair dialect.marker first second))).2 = .error e →
      (dialect.compile (pair dialect.marker first second) capacities = .ok plan ↔
        capacities = .empty ∧ plan = .ofPair dialect.marker first second) := by
    intro name e hcontains hrun
    rw [compile_of_run_eq_error hrun]
    refine iff_of_false (fun h => by cases h) ?_
    rintro ⟨rfl, -⟩
    cases hcontains
  unfold Plan.ofPair at hset ⊢
  by_cases hm : isWord dialect.marker = true
  · have hrun := @run_pair_of_isWord dialect capacities _ _ hfirst hsecond hm
    split_ifs at hrun with h
    · exact hset h hrun
    · rw [if_pos hm]
      refine compile_eq_ok_iff_of_run hrun fun param hparam => ?_
      obtain rfl := List.mem_singleton.mp hparam
      simpa using h
  · have hrun := @run_pair dialect capacities _ _ hfirst hsecond (by simpa using hm) hne
    split_ifs at hrun with h1 h2
    · exact hset h1 hrun
    · exact hset h2 hrun
    · rw [if_neg hm]
      refine compile_eq_ok_iff_of_run hrun fun param hparam => ?_
      rcases List.mem_pair.mp hparam with rfl | rfl
      · simpa using h1
      · simpa using h2

end

/-! ### Which markers can be told apart from names -/

theorem isName_letter {marker c : Char} (hm : Settings.canMark marker = true)
    (hc : isWord c = true) (hmark : Settings.canMark c = false) : IsName marker [c] where
  ne_nil := List.cons_ne_nil _ _
  word := List.forall_mem_singleton.mpr hc
  free := by
    intro hmem
    obtain rfl := List.mem_singleton.mp hmem
    rw [hm] at hmark
    cases hmark

/-- **A marker can be told apart from names exactly if it is no word character.** Then no name of
any template holds it, and two references one right after the other are two parameters; otherwise
these are one, with the marker in its name. The markers that are word characters are marks,
connectors and join controls. -/
theorem marker_not_mem_name_iff (dialect : Dialect) :
    ((∀ text capacities plan, dialect.compile text capacities = .ok plan →
        ∀ param ∈ plan.params, dialect.marker ∉ param.name) ↔ isWord dialect.marker = false) ∧
    (∀ first second, IsName dialect.marker first → IsName dialect.marker second → first ≠ second →
      ∀ capacities plan,
        dialect.compile (pair dialect.marker first second) capacities = .ok plan ↔
          capacities = .empty ∧ plan = .ofPair dialect.marker first second) ∧
    (isWord dialect.marker = true ↔
      (isMark dialect.marker = true ∨ isConnector dialect.marker = true ∨
        isJoinControl dialect.marker = true) ∧ isRecent dialect.marker = false) := by
  refine ⟨⟨fun h => ?_, fun hm text capacities plan => marker_not_mem_name hm⟩,
    fun first second hfirst hsecond hne capacities plan =>
      compile_pair_eq_ok_iff hfirst hsecond hne,
    isWord_iff_of_canMark dialect.canMark_marker⟩
  by_contra hm
  have hword : isWord dialect.marker = true := by simpa using hm
  have ha := isName_letter (c := 'a') dialect.canMark_marker (by decide +kernel) (by decide +kernel)
  have hb := isName_letter (c := 'b') dialect.canMark_marker (by decide +kernel) (by decide +kernel)
  have hcompile := (compile_pair_eq_ok_iff ha hb (by decide)).mpr ⟨rfl, rfl⟩
  rw [Plan.ofPair, if_pos hword] at hcompile
  exact h _ _ _ hcompile _ List.mem_cons_self (by simp)

theorem marker_not_mem_name_iff_colon :
    IsName ':' ['a'] ∧ IsName ':' ['b'] ∧
      Dialect.standard.compile ":a:b".toList .empty =
        .ok ⟨":a:b".toList, "??".toList,
          ⟨2, [⟨['a'], .scalar, false⟩, ⟨['b'], .scalar, false⟩], [(['a'], [1]), (['b'], [2])]⟩⟩ ∧
      ∀ text capacities plan, Dialect.standard.compile text capacities = .ok plan →
        ∀ param ∈ plan.params, ':' ∉ param.name := by
  have hm : isWord ':' = false := by decide +kernel
  have ha : IsName ':' ['a'] :=
    isName_letter (by decide +kernel) (by decide +kernel) (by decide +kernel)
  have hb : IsName ':' ['b'] :=
    isName_letter (by decide +kernel) (by decide +kernel) (by decide +kernel)
  obtain ⟨hfree, hpair, -⟩ := marker_not_mem_name_iff Dialect.standard
  refine ⟨ha, hb, ?_, hfree.mpr hm⟩
  exact (hpair ['a'] ['b'] ha hb (by decide) .empty _).mpr ⟨rfl, by decide +kernel⟩

/-- The undertie is a marker, and the second reference is taken into the name of the first. -/
theorem marker_mem_name_undertie :
    let dialect : Dialect := ⟨⟨'\u203f', 32⟩, by decide +kernel, by decide⟩
    let name : Text := ['a', '\u203f', 'b']
    IsName dialect.marker ['a'] ∧ IsName dialect.marker ['b'] ∧
      dialect.compile (pair dialect.marker ['a'] ['b']) .empty =
        .ok ⟨'\u203f' :: name, ['?'], ⟨1, [⟨name, .scalar, false⟩], [(name, [1])]⟩⟩ ∧
      dialect.marker ∈ name :=
  ⟨isName_letter (by decide +kernel) (by decide +kernel) (by decide +kernel),
    isName_letter (by decide +kernel) (by decide +kernel) (by decide +kernel),
    by decide +kernel, by decide⟩

end NamedSql
