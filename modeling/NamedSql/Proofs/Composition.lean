import NamedSql.Proofs.Acceptance
import NamedSql.Proofs.Joined
import NamedSql.Proofs.Parenthesis

/-! # Compiling text by text

A text `s ++ '(' :: t` compiles exactly if `s` and `t` do and no name is a scalar in one of them and
a list in the other, and its plan is that of `s` joined with that of `t` (`compile_paren`): the SQL
of the one, the parenthesis and the SQL of the other, with the layouts joined. For the occurrences of
`t` make the same uses in the whole text as on their own, are refused for the same reasons and write
the same (`Moved`), and the text between the last reference of `s` and the first of `t` is copied. -/

namespace NamedSql

open Layout

/-! ### Occurrences that were moved -/

namespace Occurrence

/-- The occurrence `o'` is `o` in a text that has `base` in front of the other, and `gap` is what it
copies of that. -/
structure Moved (gap base : Text) (o o' : Occurrence) : Prop where
  /-- It refers to the same name. -/
  name : o'.name = o.name
  /-- It has `base` behind all the rest. -/
  behind : o'.behind = o.behind ++ base
  /-- A field is the same one. -/
  context : o'.context = o.context.onto base
  /-- A field is taken if it was. -/
  taken : ∀ front field, o'.FieldTaken (front ++ base) field ↔ o.FieldTaken front field
  /-- The text since the previous reference begins with `gap`. -/
  gap : ∀ front, o'.gap (front ++ base) = gap ++ o.gap front

theorem moved_onto (y : Text) (o : Occurrence) : Moved [] ('(' :: y) o (o.onto ('(' :: y)) where
  name := rfl
  behind := rfl
  context := Context.ofBehind_paren o.behind y
  taken := fun front field => by simp [FieldTaken, onto]
  gap := fun front => by
    have hle : front.length - o.previous ≤ front.length := Nat.sub_le _ _
    rw [Occurrence.gap, onto, List.length_append, Nat.add_sub_add_right,
      List.take_append_of_le_length hle]
    rfl

theorem moved_first {o : Occurrence} (h : o.previous = 0) (rest c : Text) :
    Moved (rest ++ ['(']) ('(' :: (rest.reverse ++ c)) o
      { o.onto ('(' :: (rest.reverse ++ c)) with previous := c.length } where
  name := rfl
  behind := rfl
  context := Context.ofBehind_paren o.behind _
  taken := fun front field => by
    have hlt : ¬(front ++ '(' :: (rest.reverse ++ c)).length < c.length := by
      simp only [List.length_append, List.length_cons]
      omega
    rw [FieldTaken, FieldTaken, h]
    simp only [hlt, Nat.not_lt_zero, false_or]
  gap := fun front => by
    have hsplit : front ++ '(' :: (rest.reverse ++ c) = (front ++ '(' :: rest.reverse) ++ c := by
      simp
    rw [Occurrence.gap, Occurrence.gap, h, hsplit, List.length_append, Nat.add_sub_cancel,
      List.take_left, Nat.sub_zero, List.take_length]
    simp

namespace Moved

variable {gap base : Text} {o o' : Occurrence} (h : Moved gap base o o')
include h

theorem use_eq (dialect : Dialect) (capacities : Dict Nat) :
    o'.use dialect capacities = o.use dialect capacities := by
  unfold use
  rw [h.context, h.name]
  cases o.context <;> rfl

theorem refusal?_eq (capacities : Dict Nat) : o'.refusal? capacities = o.refusal? capacities := by
  unfold refusal?
  rw [h.context, h.name]
  cases o.context with
  | scalar => rfl
  | inList negated => rfl
  | likeAny front field negated =>
    dsimp only [Context.onto]
    simp only [h.taken]

theorem replacement_eq (dialect : Dialect) (capacities : Dict Nat) :
    o'.replacement dialect capacities = gap ++ o.replacement dialect capacities := by
  unfold replacement
  rw [h.context, h.name, h.behind]
  cases o.context with
  | scalar => rw [← List.append_assoc, ← h.gap]; rfl
  | inList negated => rw [← List.append_assoc, ← h.gap]; rfl
  | likeAny front field negated => rw [← List.append_assoc, ← h.gap]; rfl

end Moved

theorem map_eq_map_onto {α : Type} {f : Occurrence → α} {y : Text}
    (hf : ∀ o, f (o.onto ('(' :: y)) = f o) (found : List Occurrence) :
    (found.map (onto ('(' :: y))).map f = found.map f := by
  rw [List.map_map]
  exact List.map_congr_left fun o _ => hf o

/-- Nothing is in front of the first occurrence. -/
theorem previous_eq_zero {marker : Char} {text : Text} {o : Occurrence} {later : List Occurrence}
    (h : (occurrences marker text).1 = o :: later) : o.previous = 0 := by
  unfold occurrences at h
  cases hr : Reference.first? marker text with
  | none =>
    rw [listFrom_of_none hr] at h
    cases h
  | some r =>
    rw [listFrom_of_some hr] at h
    rw [← (List.cons.inj h).1]
    rfl

end Occurrence

section

variable {dialect : Dialect} (capacities : Dict Nat)

open Occurrence

/-- In the whole text the occurrences of the second one make the same uses, are refused for the same
reasons, and write the same behind the rest of the first text and the parenthesis. -/
theorem exists_found_paren (hm : dialect.marker ≠ '(') (s t : Text) :
    ∃ found, (occurrences dialect.marker (s ++ '(' :: t)).1 =
        (occurrences dialect.marker s).1 ++ found ∧
      found.map (use dialect capacities) =
        (occurrences dialect.marker t).1.map (use dialect capacities) ∧
      found.map (refusal? capacities) =
        (occurrences dialect.marker t).1.map (refusal? capacities) ∧
      found.flatMap (replacement dialect capacities) ++
          (occurrences dialect.marker (s ++ '(' :: t)).2 =
        (occurrences dialect.marker s).2 ++ '(' ::
          ((occurrences dialect.marker t).1.flatMap (replacement dialect capacities) ++
            (occurrences dialect.marker t).2) := by
  obtain ⟨c, hwhole⟩ := exists_occurrences_paren hm s t
  cases hfound : (occurrences dialect.marker t).1 with
  | nil =>
    rw [hfound] at hwhole
    refine ⟨[], ?_, rfl, rfl, ?_⟩ <;> rw [hwhole] <;> simp [reach]
  | cons o later =>
    have hzero := previous_eq_zero hfound
    rw [hfound] at hwhole
    generalize (occurrences dialect.marker s).2 = rest at *
    have hprevious : (o.onto ('(' :: (rest.reverse ++ c))).previous - (rest ++ ['(']).length =
        c.length := by
      simp only [onto, hzero, List.length_cons, List.length_append, List.length_reverse,
        List.length_nil]
      omega
    have hfirst := moved_first hzero rest c
    have hlater := moved_onto (rest.reverse ++ c)
    simp only [List.map_cons, reach, hprevious] at hwhole
    refine ⟨_, congrArg Prod.fst hwhole, ?_, ?_, ?_⟩
    · rw [List.map_cons, List.map_cons, hfirst.use_eq,
        map_eq_map_onto fun o => (hlater o).use_eq dialect capacities]
    · rw [List.map_cons, List.map_cons, hfirst.refusal?_eq,
        map_eq_map_onto fun o => (hlater o).refusal?_eq capacities]
    · have hsame : (later.map (onto ('(' :: (rest.reverse ++ c)))).flatMap
          (replacement dialect capacities) = later.flatMap (replacement dialect capacities) := by
        rw [List.flatMap_def, List.flatMap_def,
          map_eq_map_onto fun o => (hlater o).replacement_eq dialect capacities]
      rw [hwhole, List.flatMap_cons, List.flatMap_cons, hfirst.replacement_eq, hsame]
      simp

end

/-! ### Plans joined -/

namespace Plan

/-- No name is a scalar in the one plan and a list in the other. -/
def Compatible (p q : Plan) : Prop :=
  ∀ a ∈ p.params, ∀ b ∈ q.params, a.name = b.name → (a.kind = .scalar ↔ b.kind = .scalar)

instance (p q : Plan) : Decidable (p.Compatible q) := by
  unfold Compatible; infer_instance

/-- The plan of two texts with a parenthesis opened between them. -/
def join (p q : Plan) : Plan where
  source := p.source ++ '(' :: q.source
  sql := p.sql ++ '(' :: q.sql
  layout := p.layout.join q.layout

end Plan

section

variable {dialect : Dialect}

open Occurrence

theorem source_of_compile {text : Text} {capacities : Dict Nat} {plan : Plan}
    (h : dialect.compile text capacities = .ok plan) : plan.source = text := by
  unfold Dialect.compile at h
  split at h
  · cases h
  · split at h
    · cases h
    · cases h
      rfl

theorem Plan.of_param?_eq_some {plan : Plan} {name : Text} {param : Param}
    (h : plan.param? name = some param) : param ∈ plan.params ∧ param.name = name :=
  ⟨List.mem_of_find?_eq_some h, by simpa using List.find?_some h⟩

/-- Plans can be joined if the references of the two texts agree. -/
theorem compatible_iff (hm : dialect.marker ≠ '(') {s t : Text} {p q : Plan}
    (hp : dialect.compile s .empty = .ok p) (hq : dialect.compile t .empty = .ok q) :
    p.Compatible q ↔ ∀ a ∈ (occurrences dialect.marker s).1, ∀ b ∈ (occurrences dialect.marker t).1,
      a.name = b.name → (a.context = .scalar ↔ b.context = .scalar) := by
  constructor
  · intro h a ha b hb hname
    obtain ⟨param, hparam, hkind⟩ := exists_param?_eq hm hp ha
    obtain ⟨param', hparam', hkind'⟩ := exists_param?_eq hm hq hb
    obtain ⟨hmem, hname₁⟩ := Plan.of_param?_eq_some hparam
    obtain ⟨hmem', hname₂⟩ := Plan.of_param?_eq_some hparam'
    have hagree := h param hmem param' hmem' (by rw [hname₁, hname₂, hname])
    rwa [hkind, hkind', Context.kind_eq_scalar_iff, Context.kind_eq_scalar_iff] at hagree
  · intro h a ha b hb hname
    obtain ⟨o, ho, hname₁, hkind₁⟩ := exists_kind_eq hm hp ha
    obtain ⟨o', ho', hname₂, hkind₂⟩ := exists_kind_eq hm hq hb
    rw [hkind₁, hkind₂, Context.kind_eq_scalar_iff, Context.kind_eq_scalar_iff]
    exact h o ho o' ho' (by rw [hname₁, hname₂, hname])

theorem exists_compile_empty_iff (hm : dialect.marker ≠ '(') (text : Text) :
    (∃ plan, dialect.compile text .empty = .ok plan) ↔
      (∀ o ∈ (occurrences dialect.marker text).1, o.refusal? .empty = none) ∧
        Uniform ((occurrences dialect.marker text).1.map (use dialect .empty)) := by
  rw [exists_compile_eq_ok_iff hm]
  simp [Dict.names, Dict.empty]

/-- The whole text compiles exactly if either text does and their references agree. -/
theorem exists_compile_paren_iff (hm : dialect.marker ≠ '(') (s t : Text) :
    (∃ plan, dialect.compile (s ++ '(' :: t) .empty = .ok plan) ↔
      ∃ p q, dialect.compile s .empty = .ok p ∧ dialect.compile t .empty = .ok q ∧
        p.Compatible q := by
  obtain ⟨found, hfound, huse, hrefusal, -⟩ :=
    exists_found_paren .empty hm s t
  have hone : ∀ l : List Occurrence, (∀ o ∈ l, o.refusal? .empty = none) ↔
      ∀ r ∈ l.map (refusal? .empty), r = none := by simp
  rw [exists_compile_empty_iff hm, hfound, List.map_append, huse, ← List.map_append,
    List.forall_mem_append, hone found, hrefusal, ← hone, uniform_map_use_iff]
  constructor
  · rintro ⟨⟨hs, ht⟩, hkinds⟩
    obtain ⟨p, hp⟩ := (exists_compile_empty_iff hm s).mpr ⟨hs, uniform_map_use_iff.mpr
      fun a ha b hb => hkinds a (List.mem_append_left _ ha) b (List.mem_append_left _ hb)⟩
    obtain ⟨q, hq⟩ := (exists_compile_empty_iff hm t).mpr ⟨ht, uniform_map_use_iff.mpr
      fun a ha b hb => hkinds a (List.mem_append_right _ ha) b (List.mem_append_right _ hb)⟩
    exact ⟨p, q, hp, hq, (compatible_iff hm hp hq).mpr
      fun a ha b hb => hkinds a (List.mem_append_left _ ha) b (List.mem_append_right _ hb)⟩
  · rintro ⟨p, q, hp, hq, hpq⟩
    obtain ⟨hs, hsame⟩ := (exists_compile_empty_iff hm s).mp ⟨p, hp⟩
    obtain ⟨ht, hsame'⟩ := (exists_compile_empty_iff hm t).mp ⟨q, hq⟩
    rw [uniform_map_use_iff] at hsame hsame'
    rw [compatible_iff hm hp hq] at hpq
    refine ⟨⟨hs, ht⟩, fun a ha b hb hname => ?_⟩
    rcases List.mem_append.mp ha with ha | ha <;> rcases List.mem_append.mp hb with hb | hb
    · exact hsame a ha b hb hname
    · exact hpq a ha b hb hname
    · exact (hpq b hb a ha hname.symm).symm
    · exact hsame' a ha b hb hname

theorem compile_paren_of_ok (hm : dialect.marker ≠ '(') {s t : Text} {p q : Plan}
    (hp : dialect.compile s .empty = .ok p) (hq : dialect.compile t .empty = .ok q)
    (h : p.Compatible q) : dialect.compile (s ++ '(' :: t) .empty = .ok (p.join q) := by
  obtain ⟨plan, hplan⟩ := (exists_compile_paren_iff hm s t).mpr ⟨p, q, hp, hq, h⟩
  obtain ⟨hsql, hlayout, -⟩ := exists_of_compile_eq hm hplan
  obtain ⟨hsql₁, hlayout₁, -⟩ := exists_of_compile_eq hm hp
  obtain ⟨hsql₂, hlayout₂, -⟩ := exists_of_compile_eq hm hq
  obtain ⟨found, hfound, huse, -, hwritten⟩ := exists_found_paren .empty hm s t
  rw [hplan]
  refine congrArg Except.ok (Plan.mk.injEq .. |>.mpr ⟨?_, ?_, ?_⟩)
  · rw [source_of_compile hplan, source_of_compile hp, source_of_compile hq]
  · rw [hsql, hfound, List.flatMap_append, List.append_assoc, hwritten, hsql₁, hsql₂,
      List.append_assoc]
  · rw [hlayout, hfound, List.map_append, huse, hlayout₁, hlayout₂, join_ofUses]

/-- **Compiling text by text**: a text with a parenthesis opened in it compiles exactly if the texts
on both sides do and no name is a scalar on one side and a list on the other. Its plan is theirs
joined: a key has the positions of the first plan and then those of the second moved behind its
placeholders, and a parameter is that of the first plan, negated also by the second, or that of the
second. The references after the parenthesis are found, and their contexts are read, as in the second
text alone. -/
theorem compile_paren (hm : dialect.marker ≠ '(') (s t : Text) :
    ((∃ plan, dialect.compile (s ++ '(' :: t) .empty = .ok plan) ↔
      ∃ p q, dialect.compile s .empty = .ok p ∧ dialect.compile t .empty = .ok q ∧
        p.Compatible q) ∧
    (∀ p q, dialect.compile s .empty = .ok p → dialect.compile t .empty = .ok q → p.Compatible q →
      dialect.compile (s ++ '(' :: t) .empty = .ok (p.join q) ∧
      (∀ key, (p.join q).layout.positions? key = Option.merge (· ++ ·) (p.layout.positions? key)
        ((q.layout.positions? key).map (List.map (p.placeholders + ·)))) ∧
      ∀ name, (p.join q).param? name = Option.merge
        (fun a b => { a with negated := a.negated || b.negated }) (p.param? name) (q.param? name)) ∧
    Reference.spansFrom dialect.marker 0 (s ++ '(' :: t) =
      Reference.spansFrom dialect.marker 0 s ++
        Reference.spansFrom dialect.marker (s.byteLength + 1) t ∧
    ∀ offset, Context.at? (s ++ '(' :: t) (s.byteLength + 1 + offset) =
      (Context.at? t offset).map (Context.onto ('(' :: s.reverse)) := by
  refine ⟨exists_compile_paren_iff hm s t, fun p q hp hq hpq => ⟨compile_paren_of_ok hm hp hq hpq,
    positions?_join p.layout q.layout, param?_join p.layout q.layout⟩, ?_, Context.at?_paren s t⟩
  rw [Reference.spansFrom_paren hm, Nat.zero_add]

/-- A list that is negated only in front of the parenthesis, and a keyword behind the parenthesis
that has no field there. -/
theorem compile_paren_shared_list :
    let dialect : Dialect := ⟨⟨':', 2⟩, by decide +kernel, by decide⟩
    let s := "a NOT IN :x AND b".toList
    let t := " LIKE_ANY :y, c IN :x".toList
    let p : Plan := ⟨s, "a NOT IN (?, ?) AND b".toList,
      ⟨2, [⟨['x'], .list 2, true⟩], [("x__0".toList, [1]), ("x__1".toList, [2])]⟩⟩
    let q : Plan := ⟨t, " LIKE_ANY ?, c IN (?, ?)".toList,
      ⟨3, [⟨['y'], .scalar, false⟩, ⟨['x'], .list 2, false⟩],
        [(['y'], [1]), ("x__0".toList, [2]), ("x__1".toList, [3])]⟩⟩
    dialect.marker ≠ '(' ∧ dialect.compile s .empty = .ok p ∧ dialect.compile t .empty = .ok q ∧
      p.Compatible q ∧ dialect.compile (s ++ '(' :: t) .empty = .ok (p.join q) ∧
      (p.join q).layout = ⟨5, [⟨['x'], .list 2, true⟩, ⟨['y'], .scalar, false⟩],
        [("x__0".toList, [1, 4]), ("x__1".toList, [2, 5]), (['y'], [3])]⟩ := by
  intro dialect s t p q
  have hm : dialect.marker ≠ '(' := by decide
  have hp : dialect.compile s .empty = .ok p := by decide +kernel
  have hq : dialect.compile t .empty = .ok q := by decide +kernel
  have hpq : p.Compatible q := by decide +kernel
  exact ⟨hm, hp, hq, hpq, ((compile_paren hm s t).2.1 p q hp hq hpq).1, by decide +kernel⟩

end

end NamedSql
