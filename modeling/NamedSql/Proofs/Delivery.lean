import NamedSql.Proofs.Filling
import NamedSql.Proofs.Rendering

/-! # Every value is delivered to its place

The SQL of a plan with the arguments of a binding in the places of its placeholders
(`Arguments.fillIn`) is the text of the template with values in the places of its references
(`Dialect.display`), which are read off the template alone (`fillIn_sql`). A placeholder takes
the next argument, so a text that is written for one occurrence after the other can be filled in
piece by piece (`weave_append`), each piece with as many arguments as it has placeholders. -/

namespace NamedSql

open Layout
open Expansion (count_append_single count_intercalate not_mem_operator_joiner not_mem_separator
  group_eq count_group not_mem_append_operator count_alternatives)

/-- A character of a text, or a value in it; a place that has no value is shown too. -/
inductive Piece where
  /-- A character. -/
  | char (c : Char)
  /-- The place of a value. -/
  | value (value : Option Value)

/-- A text without values. -/
def Piece.ofText (text : Text) : List Piece := text.map .char

/-! ### Arguments in SQL -/

namespace Arguments

/-- Puts the arguments after the first `k` in the places of the placeholders of a text. -/
def fillFrom (arguments : Arguments) : Nat → Text → List Piece
  | _, [] => []
  | k, c :: rest =>
    if c = Expansion.placeholder then
      .value (arguments.get? (k + 1)) :: fillFrom arguments (k + 1) rest
    else .char c :: fillFrom arguments k rest

/-- Puts argument `k` in the place of placeholder `k` of some SQL. -/
def fillIn (arguments : Arguments) (sql : Text) : List Piece := arguments.fillFrom 0 sql

end Arguments

/-! ### Values in a template -/

/-- What a list shows as element `i`: the element, or the padding if there are fewer. -/
def Bindings.element? (bindings : Bindings) (negated : Bool) (name : Text) (i : Nat) :
    Option Value :=
  match bindings.get? name with
  | some (.list items) =>
    some (items[i]?.getD (if negated then items.getLast?.getD .null else .null))
  | _ => none

/-- What an occurrence shows, with the text since the previous one. `negated` tells the names that
are negated somewhere. -/
def Occurrence.display (dialect : Dialect) (capacities : Dict Nat) (bindings : Bindings)
    (negated : Text → Bool) (o : Occurrence) : List Piece :=
  let elements := (List.range (dialect.room capacities o.name)).map
    (bindings.element? (negated o.name) o.name)
  match o.context with
  | .scalar => Piece.ofText (o.gap o.behind) ++ [.value (bindings.get? o.name)]
  | .inList _ =>
    Piece.ofText (o.gap o.behind) ++ (Piece.ofText ['('] ++
      (Piece.ofText ", ".toList).intercalate (elements.map fun v => [.value v]) ++
      Piece.ofText [')'])
  | .likeAny front field here =>
    Piece.ofText (o.gap front) ++
      (Piece.ofText (Expansion.joiner here)).intercalate
        (elements.map fun v => Piece.ofText (field ++ Expansion.operator here) ++ [.value v])

/-- The text of a template with values in the places of its references. -/
def Dialect.display (dialect : Dialect) (text : Text) (capacities : Dict Nat)
    (bindings : Bindings) : List Piece :=
  let (found, rest) := occurrences dialect.marker text
  let negated := fun name => found.any fun o => o.name == name && o.context.negated
  found.flatMap (Occurrence.display dialect capacities bindings negated) ++ Piece.ofText rest

/-! ### Filling in piece by piece -/

/-- Puts values in the places of the placeholders of a text, one after the other. -/
def weave : Text → List Value → List Piece
  | [], _ => []
  | c :: rest, values =>
    if c = Expansion.placeholder then .value values.head? :: weave rest values.tail
    else .char c :: weave rest values

theorem Arguments.fillFrom_eq_weave (arguments : Arguments) (k : Nat) (text : Text) :
    arguments.fillFrom k text = weave text (arguments.values.drop k) := by
  induction text generalizing k with
  | nil => rfl
  | cons c rest ih =>
    rw [fillFrom, weave, ih, ih, List.head?_drop, List.tail_drop]
    rfl

theorem weave_append {s : Text} {vs : List Value} (h : s.count Expansion.placeholder = vs.length)
    (t : Text) (ws : List Value) : weave (s ++ t) (vs ++ ws) = weave s vs ++ weave t ws := by
  induction s generalizing vs with
  | nil =>
    obtain rfl := List.length_eq_zero_iff.mp h.symm
    rfl
  | cons c s ih =>
    rw [List.cons_append, weave, weave]
    by_cases hc : c = Expansion.placeholder
    · subst hc
      rw [List.count_cons_self] at h
      obtain ⟨v, vs, rfl⟩ := List.exists_cons_of_length_eq_add_one h.symm
      rw [if_pos rfl, if_pos rfl, List.cons_append, List.cons_append]
      exact congrArg _ (ih (Nat.succ.inj h))
    · rw [List.count_cons_of_ne hc] at h
      rw [if_neg hc, if_neg hc, ih h, List.cons_append]

theorem weave_of_not_mem {text : Text} (h : Expansion.placeholder ∉ text) (vs : List Value) :
    weave text vs = Piece.ofText text := by
  induction text with
  | nil => rfl
  | cons c rest ih =>
    rw [List.mem_cons, not_or] at h
    rw [weave, if_neg (Ne.symm h.1), ih h.2]
    rfl

theorem weave_append_of_not_mem {s : Text} (h : Expansion.placeholder ∉ s) (t : Text)
    (vs : List Value) : weave (s ++ t) vs = Piece.ofText s ++ weave t vs := by
  have hcount : s.count Expansion.placeholder = ([] : List Value).length :=
    List.count_eq_zero.mpr h
  rw [← weave_of_not_mem h [], ← weave_append hcount, List.nil_append]

/-- No place stays without a value if there are as many values as places. -/
theorem ne_none_of_mem_weave {text : Text} {vs : List Value}
    (h : text.count Expansion.placeholder = vs.length) {v : Option Value}
    (hv : .value v ∈ weave text vs) : v ≠ none := by
  induction text generalizing vs with
  | nil => exact absurd hv List.not_mem_nil
  | cons c rest ih =>
    rw [weave] at hv
    by_cases hc : c = Expansion.placeholder
    · subst hc
      rw [List.count_cons_self] at h
      obtain ⟨w, vs, rfl⟩ := List.exists_cons_of_length_eq_add_one h.symm
      rw [if_pos rfl] at hv
      rcases List.mem_cons.mp hv with hv | hv
      · cases hv
        exact Option.some_ne_none w
      · exact ih (Nat.succ.inj h) hv
    · rw [List.count_cons_of_ne hc] at h
      rw [if_neg hc] at hv
      rcases List.mem_cons.mp hv with hv | hv
      · cases hv
      · exact ih h hv

theorem weave_single (v : Value) : weave Expansion.single [v] = [.value (some v)] := rfl

section

variable {sep lead : Text} (hsep : Expansion.placeholder ∉ sep)
  (hlead : Expansion.placeholder ∉ lead)
include hsep hlead

/-- A list of pieces is filled in with one value for each. -/
theorem weave_intercalate : ∀ vs : List Value,
    weave (sep.intercalate (List.replicate vs.length (lead ++ Expansion.single))) vs =
      (Piece.ofText sep).intercalate
        ((vs.map some).map fun v => Piece.ofText lead ++ [.value v])
  | [] => rfl
  | [v] => by
    rw [List.length_singleton, List.replicate_one, List.intercalate_singleton,
      weave_append_of_not_mem hlead, weave_single, List.map_singleton, List.map_singleton,
      List.intercalate_singleton]
  | v :: w :: vs => by
    have hone : (lead ++ Expansion.single).count Expansion.placeholder = [v].length :=
      count_append_single hlead
    have ih := weave_intercalate (w :: vs)
    rw [List.length_cons] at ih
    rw [List.length_cons, List.length_cons, Expansion.intercalate_replicate_succ,
      ← List.singleton_append, weave_append hone, weave_append_of_not_mem hsep, ih,
      weave_append_of_not_mem hlead, weave_single]
    simp only [List.map_cons, List.intercalate_cons_cons, List.append_assoc, List.cons_append,
      List.nil_append]

end

/-- A group is filled in with one value for each of its places. -/
theorem weave_group (vs : List Value) :
    weave (Expansion.group vs.length) vs =
      Piece.ofText ['('] ++ ((Piece.ofText ", ".toList).intercalate
        ((vs.map some).map fun v => [.value v]) ++ Piece.ofText [')']) := by
  have hopen : Expansion.placeholder ∉ ['('] := by decide
  have hcount := count_intercalate not_mem_separator List.not_mem_nil vs.length
  have hlist := weave_append hcount [')'] []
  rw [List.append_nil, weave_intercalate not_mem_separator List.not_mem_nil] at hlist
  rw [group_eq, weave_append_of_not_mem hopen, hlist]
  rfl

section

variable {field : Text} (hfield : Expansion.placeholder ∉ field) (negated : Bool)
include hfield

/-- Comparisons are filled in with one value for each. -/
theorem weave_alternatives (vs : List Value) :
    weave (Expansion.alternatives field vs.length negated) vs =
      (Piece.ofText (Expansion.joiner negated)).intercalate ((vs.map some).map fun v =>
        Piece.ofText (field ++ Expansion.operator negated) ++ [.value v]) :=
  weave_intercalate (not_mem_operator_joiner negated).2 (not_mem_append_operator hfield negated) vs

end

/-! ### One occurrence -/

theorem some_map_keys {param use : Param} {bindings : Bindings} {value : Value}
    {val : Text → Value} (hkind : param.kind = use.kind)
    (hvalue : bindings.get? use.name = some value)
    (hfits : param.Fits value (use.keys.map fun key => (key, val key))) {capacity : Nat}
    (hlist : use.kind = .list capacity) :
    (use.keys.map val).map some =
      (List.range capacity).map (bindings.element? param.negated use.name) := by
  obtain ⟨items, rfl, -, hslots⟩ := hfits.of_list (hkind.trans hlist)
  have hvals := congrArg (List.map fun slot => some slot.2) hslots
  rw [List.map_map, List.map_map] at hvals
  rw [List.map_map]
  refine hvals.trans (List.map_congr_left fun i _ => ?_)
  rw [Bindings.element?, hvalue]
  rfl

section

variable {dialect : Dialect} {capacities : Dict Nat}

/-- What is written for an occurrence, filled in with the values of its use, is what it shows. -/
theorem weave_replacement {o : Occurrence} (hq : Expansion.placeholder ∉ o.behind)
    {param : Param} (hkind : param.kind = (o.use dialect capacities).kind)
    {bindings : Bindings} {value : Value}
    (hvalue : bindings.get? o.name = some value) {val : Text → Value}
    (hfits : param.Fits value ((o.use dialect capacities).keys.map fun key => (key, val key)))
    {negated : Text → Bool} (hneg : negated o.name = param.negated) :
    weave (o.replacement dialect capacities) ((o.use dialect capacities).keys.map val) =
        o.display dialect capacities bindings negated ∧
      (o.replacement dialect capacities).count Expansion.placeholder =
        (o.use dialect capacities).keys.length := by
  have hgap : ∀ front, (∀ c ∈ front, c ∈ o.behind) → Expansion.placeholder ∉ o.gap front :=
    fun front hfront hmem => hq (hfront _ (Occurrence.mem_of_mem_gap hmem))
  have hlen : ∀ here, ((⟨o.name, .list (dialect.room capacities o.name), here⟩ : Param).keys.map
      val).length = dialect.room capacities o.name := fun here => by simp [Param.keys]
  unfold Occurrence.replacement Occurrence.display
  cases hcontext : o.context with
  | scalar =>
    have huse : o.use dialect capacities = ⟨o.name, .scalar, false⟩ :=
      Occurrence.use_of_context dialect capacities hcontext
    rw [huse] at hkind hfits ⊢
    have hval : val o.name = value := by
      have h := (List.cons.inj (hfits.of_scalar hkind)).1
      exact (Prod.mk.inj h).2
    have hnot := hgap o.behind fun _ h => h
    constructor
    · rw [weave_append_of_not_mem hnot, hvalue, ← hval]
      rfl
    · rw [List.count_append, List.count_eq_zero.mpr hnot]
      rfl
  | inList here =>
    have huse : o.use dialect capacities =
        ⟨o.name, .list (dialect.room capacities o.name), here⟩ :=
      Occurrence.use_of_context dialect capacities hcontext
    rw [huse] at hkind hfits ⊢
    have hsome := some_map_keys hkind hvalue hfits rfl
    have hnot := hgap o.behind fun _ h => h
    constructor
    · have hgroup := weave_group
        ((⟨o.name, .list (dialect.room capacities o.name), here⟩ : Param).keys.map val)
      rw [hlen, hsome] at hgroup
      rw [weave_append_of_not_mem hnot, hgroup, hneg]
      simp only [List.append_assoc]
    · rw [List.count_append, List.count_eq_zero.mpr hnot, count_group]
      simp [Param.keys]
  | likeAny front field here =>
    have huse : o.use dialect capacities =
        ⟨o.name, .list (dialect.room capacities o.name), here⟩ :=
      Occurrence.use_of_context dialect capacities hcontext
    rw [huse] at hkind hfits ⊢
    have hsome := some_map_keys hkind hvalue hfits rfl
    have hnot := hgap front fun c hc => Occurrence.mem_of_mem_likeAny hcontext (Or.inl hc)
    have hfield : Expansion.placeholder ∉ field :=
      fun h => hq (Occurrence.mem_of_mem_likeAny hcontext (Or.inr h))
    constructor
    · have hall := weave_alternatives hfield here
        ((⟨o.name, .list (dialect.room capacities o.name), here⟩ : Param).keys.map val)
      rw [hlen, hsome] at hall
      rw [weave_append_of_not_mem hnot, hall, hneg]
    · rw [List.count_append, List.count_eq_zero.mpr hnot, count_alternatives hfield]
      simp [Param.keys]

/-! ### All occurrences -/

theorem weave_flatMap {bindings : Bindings} {negated : Text → Bool} {val : Text → Value}
    {found : List Occurrence}
    (h : ∀ o ∈ found,
      weave (o.replacement dialect capacities) ((o.use dialect capacities).keys.map val) =
          o.display dialect capacities bindings negated ∧
        (o.replacement dialect capacities).count Expansion.placeholder =
          (o.use dialect capacities).keys.length)
    {rest : Text} (hrest : Expansion.placeholder ∉ rest) :
    weave (found.flatMap (Occurrence.replacement dialect capacities) ++ rest)
        (((found.map (Occurrence.use dialect capacities)).flatMap Param.keys).map val) =
        found.flatMap (Occurrence.display dialect capacities bindings negated) ++
          Piece.ofText rest ∧
      (found.flatMap (Occurrence.replacement dialect capacities) ++ rest).count
          Expansion.placeholder =
        ((found.map (Occurrence.use dialect capacities)).flatMap Param.keys).length := by
  induction found with
  | nil =>
    exact ⟨weave_of_not_mem hrest [], List.count_eq_zero.mpr hrest⟩
  | cons o found ih =>
    obtain ⟨ho, hfound⟩ := List.forall_mem_cons.mp h
    obtain ⟨h1, h2⟩ := ih hfound
    have hcount : (o.replacement dialect capacities).count Expansion.placeholder =
        ((o.use dialect capacities).keys.map val).length := by
      rw [List.length_map, ho.2]
    constructor
    · rw [List.flatMap_cons, List.map_cons, List.flatMap_cons, List.map_append, List.append_assoc,
        weave_append hcount, ho.1, h1, List.flatMap_cons, List.append_assoc]
    · rw [List.flatMap_cons, List.map_cons, List.flatMap_cons, List.append_assoc,
        List.count_append, h2, ho.2, List.length_append]

/-- **Every value is delivered to its place**: for a template without question marks, in which no
scalar is called like an element of a list, the SQL with the arguments in the places of its
placeholders is the template with the bound values in the places of its references: the value of
each scalar, and the elements of each list with the padding after them. There are as many arguments
as placeholders, and no place stays without a value. -/
theorem fillIn_sql (hm : dialect.marker ≠ '(') {text : Text} (hq : Expansion.placeholder ∉ text)
    {plan : Plan} (h : dialect.compile text capacities = .ok plan) (hclash : plan.Unambiguous)
    {bindings : Bindings} {arguments : Arguments} (hb : plan.bind bindings = .ok arguments) :
    arguments.fillIn plan.sql = dialect.display text capacities bindings ∧
      plan.sql.count Expansion.placeholder = arguments.size ∧
      ∀ v, .value v ∈ dialect.display text capacities bindings → v ≠ none := by
  obtain ⟨hsql, hlayout, hu⟩ := exists_of_compile_eq hm h
  obtain ⟨val, hvalues, hfits⟩ := exists_of_bind hlayout hu hclash hb
  have hpieces : ∀ o ∈ (occurrences dialect.marker text).1,
      weave (o.replacement dialect capacities) ((o.use dialect capacities).keys.map val) =
          o.display dialect capacities bindings (fun name =>
            (occurrences dialect.marker text).1.any fun o => o.name == name && o.context.negated) ∧
        (o.replacement dialect capacities).count Expansion.placeholder =
          (o.use dialect capacities).keys.length := by
    intro o ho
    have huse : o.use dialect capacities ∈
        (occurrences dialect.marker text).1.map (Occurrence.use dialect capacities) :=
      List.mem_map_of_mem ho
    obtain ⟨value, hvalue, hfit⟩ := hfits _ huse
    refine weave_replacement (fun hmem => hq (Occurrence.mem_of_mem_behind ho hmem)) (hu _ huse)
      hvalue hfit ?_
    rw [merge, List.any_map]
    rfl
  obtain ⟨t, ht⟩ := Occurrence.exists_append_listFrom dialect.marker [] text
  have hrest : Expansion.placeholder ∉ (occurrences dialect.marker text).2 :=
    fun hmem => hq (ht ▸ List.mem_append_right t hmem)
  obtain ⟨hweave, hcount⟩ := weave_flatMap hpieces hrest
  rw [← hsql, ← hvalues] at hweave
  have hsize : plan.sql.count Expansion.placeholder = arguments.values.length := by
    rw [hsql, hcount, hvalues, List.length_map]
  have hfill : arguments.fillIn plan.sql = dialect.display text capacities bindings := by
    rw [Arguments.fillIn, Arguments.fillFrom_eq_weave, List.drop_zero]
    exact hweave
  refine ⟨hfill, hsize, fun v hv => ne_none_of_mem_weave hsize (v := v) ?_⟩
  rw [← hfill, Arguments.fillIn, Arguments.fillFrom_eq_weave, List.drop_zero] at hv
  exact hv

theorem fillIn_sql_not_in :
    let text := "x NOT IN :b,:c".toList
    let capacities := Dict.empty.insert ['b'] 2
    let plan : Plan := ⟨text, "x NOT IN (?, ?),?".toList,
      ⟨3, [⟨['b'], .list 2, true⟩, ⟨['c'], .scalar, false⟩],
        [("b__0".toList, [1]), ("b__1".toList, [2]), (['c'], [3])]⟩⟩
    let bindings := Dict.ofList [(['b'], .list [.bool true]), (['c'], .null)]
    let arguments : Arguments := ⟨[.bool true, .bool true, .null]⟩
    Dialect.standard.marker ≠ '(' ∧ Expansion.placeholder ∉ text ∧
      Dialect.standard.compile text capacities = .ok plan ∧ plan.Unambiguous ∧
      plan.bind bindings = .ok arguments ∧
      arguments.fillIn plan.sql = Dialect.standard.display text capacities bindings := by
  intro text capacities plan bindings arguments
  have hm : Dialect.standard.marker ≠ '(' := by decide
  have hq : Expansion.placeholder ∉ text := by decide +kernel
  have hplan : Dialect.standard.compile text capacities = .ok plan := by decide +kernel
  have hclash : plan.Unambiguous := by decide +kernel
  have hbind : plan.bind bindings = .ok arguments := rfl
  exact ⟨hm, hq, hplan, hclash, hbind, (fillIn_sql hm hq hplan hclash hbind).1⟩

end

end NamedSql
