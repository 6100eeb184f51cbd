import NamedSql.Proofs.Field
import NamedSql.Proofs.TwoPass
import NamedSql.Proofs.Uses

/-! # What the occurrences write

Every occurrence writes a text (`Occurrence.replacement`) and makes one use of its parameter
(`Occurrence.use`), and neither depends on the occurrences before it: these only decide whether the
use is refused. So the SQL of a plan is made of the texts of its occurrences and the text behind
them, and its layout is the table of their uses (`exists_of_compile_eq`). -/

namespace NamedSql

open Layout

namespace Dialect

/-- The capacity of a list if it is not refused: its own, else that of the dialect. -/
def room (dialect : Dialect) (capacities : Dict Nat) (name : Text) : Nat :=
  (capacities.get? name).getD dialect.capacity

theorem room_of_capacityOf {dialect : Dialect} {capacities : Dict Nat} {name : Text} {n : Nat}
    (h : dialect.capacityOf capacities name = .ok n) : dialect.room capacities name = n := by
  unfold capacityOf at h
  unfold room
  split at h
  · rename_i hnone
    rw [hnone]
    exact Except.ok.inj h
  · cases h
  · rename_i hsome
    rw [hsome]
    exact Except.ok.inj h

end Dialect

namespace Context

/-- The kind of a parameter in this context, if lists have the given capacity. -/
def kind (capacity : Nat) : Context → Kind
  | scalar => .scalar
  | inList _ => .list capacity
  | likeAny _ _ _ => .list capacity

/-- The context is that of a list after NOT. -/
def negated : Context → Bool
  | scalar => false
  | inList negated => negated
  | likeAny _ _ negated => negated

theorem kind_eq_scalar_iff {context : Context} {capacity : Nat} :
    context.kind capacity = .scalar ↔ context = .scalar := by
  cases context <;> simp [kind]

/-- Contexts that are alike say the same of the parameter. -/
theorem Alike.kind_eq {x x' : Char} {b b' : Text} {context context' : Context}
    (h : Alike x x' b b' context context') (capacity : Nat) :
    context'.kind capacity = context.kind capacity ∧ context'.negated = context.negated := by
  cases h <;> exact ⟨rfl, rfl⟩

end Context

namespace Occurrence

variable (dialect : Dialect) (capacities : Dict Nat)

/-- The use that an occurrence makes of its parameter. -/
def use (o : Occurrence) : Param :=
  ⟨o.name, o.context.kind (dialect.room capacities o.name), o.context.negated⟩

theorem use_of_context {o : Occurrence} {context : Context} (h : o.context = context) :
    o.use dialect capacities =
      ⟨o.name, context.kind (dialect.room capacities o.name), context.negated⟩ := by
  rw [use, h]

/-- What is written for an occurrence, with the text since the previous one. -/
def replacement (o : Occurrence) : Text :=
  match o.context with
  | .scalar => o.gap o.behind ++ Expansion.single
  | .inList _ => o.gap o.behind ++ Expansion.group (dialect.room capacities o.name)
  | .likeAny front field negated =>
    o.gap front ++ Expansion.alternatives field (dialect.room capacities o.name) negated

variable {dialect capacities}

/-- An expansion adds the use of its occurrence. -/
theorem of_expansion {o : Occurrence} {layout layout' : Layout} {sql : Text}
    (h : o.expansion dialect capacities layout = .ok (sql, layout')) :
    layout.add (o.use dialect capacities) = .ok layout' ∧
      sql = o.replacement dialect capacities := by
  unfold expansion at h
  unfold use replacement
  cases hcontext : o.context with
  | scalar =>
    rw [hcontext] at h
    dsimp only at h ⊢
    split_ifs at h
    cases hadd : layout.addScalar o.name with
    | error e => rw [hadd] at h; cases h
    | ok layout1 =>
      rw [hadd] at h
      cases h
      rw [addScalar_eq_add] at hadd
      exact ⟨hadd, rfl⟩
  | inList negated =>
    rw [hcontext] at h
    obtain ⟨capacity, hcap, hadd, rfl⟩ := Dialect.bind_addList_eq_ok h
    rw [addList_eq_add] at hadd
    rw [Dialect.room_of_capacityOf hcap]
    exact ⟨hadd, rfl⟩
  | likeAny front field negated =>
    rw [hcontext] at h
    dsimp only at h
    split_ifs at h
    obtain ⟨capacity, hcap, hadd, rfl⟩ := Dialect.bind_addList_eq_ok h
    rw [addList_eq_add] at hadd
    rw [Dialect.room_of_capacityOf hcap]
    exact ⟨hadd, rfl⟩

end Occurrence

section

variable {dialect : Dialect} {capacities : Dict Nat}

/-- The uses of the occurrences are added one by one. -/
theorem of_renderAll {found : List Occurrence} {layout layout' : Layout} {sql : Text}
    (h : dialect.renderAll capacities layout found = .ok (sql, layout')) :
    (found.map (Occurrence.use dialect capacities)).foldlM Layout.add layout = .ok layout' ∧
      sql = found.flatMap (Occurrence.replacement dialect capacities) := by
  induction found generalizing layout sql with
  | nil =>
    cases h
    exact ⟨rfl, rfl⟩
  | cons o later ih =>
    cases hexp : o.expansion dialect capacities layout with
    | error e => rw [Dialect.renderAll_cons_of_error hexp] at h; cases h
    | ok result =>
      obtain ⟨text, layout1⟩ := result
      rw [Dialect.renderAll_cons_of_ok hexp] at h
      cases hlater : dialect.renderAll capacities layout1 later with
      | error e => rw [hlater] at h; cases h
      | ok rest =>
        obtain ⟨rest, layout2⟩ := rest
        rw [hlater] at h
        cases h
        obtain ⟨hadd, rfl⟩ := Occurrence.of_expansion hexp
        obtain ⟨hfold, rfl⟩ := ih hlater
        refine ⟨?_, rfl⟩
        rw [List.map_cons, List.foldlM_cons, hadd]
        exact hfold

/-- **A plan** is made of what its occurrences write and of the uses that they make. -/
theorem exists_of_compile_eq (hm : dialect.marker ≠ '(') {text : Text} {plan : Plan}
    (h : dialect.compile text capacities = .ok plan) :
    plan.sql = (occurrences dialect.marker text).1.flatMap
        (Occurrence.replacement dialect capacities) ++ (occurrences dialect.marker text).2 ∧
      plan.layout = ofUses ((occurrences dialect.marker text).1.map
        (Occurrence.use dialect capacities)) ∧
      Uniform ((occurrences dialect.marker text).1.map (Occurrence.use dialect capacities)) := by
  rw [compile_eq capacities hm] at h
  cases hall : dialect.renderAll capacities .empty (occurrences dialect.marker text).1 with
  | error e => rw [Dialect.render_of_error hall] at h; cases h
  | ok result =>
    obtain ⟨sql, layout⟩ := result
    rw [Dialect.render_of_ok hall] at h
    obtain ⟨hfold, rfl⟩ := of_renderAll hall
    rw [← ofUses_nil] at hfold
    obtain ⟨rfl, huniform⟩ := of_foldlM_add (fun _ h => absurd h List.not_mem_nil) hfold
    split at h
    · cases h
    · cases h
      exact ⟨rfl, rfl, huniform⟩

end

/-! ### Where the written text comes from -/

/-- What an occurrence copies lies in the text of the template. -/
theorem Occurrence.mem_of_mem_behind {marker : Char} {text : Text} {o : Occurrence}
    (h : o ∈ (occurrences marker text).1) {c : Char} (hc : c ∈ o.behind) : c ∈ text := by
  obtain ⟨rest, hrest⟩ := Occurrence.exists_append_of_mem_listFrom h
  rw [List.reverse_nil, List.nil_append] at hrest
  rw [hrest]
  exact List.mem_append_left _ (List.mem_reverse.mpr hc)

theorem Occurrence.exists_append_listFrom (marker : Char) (behind ahead : Text) :
    ∃ t, ahead = t ++ (Occurrence.listFrom marker behind ahead).2 := by
  induction ahead using Reference.scan_induction marker generalizing behind with
  | none ahead h => exact ⟨[], by rw [Occurrence.listFrom_of_none h]; rfl⟩
  | some ahead r h ih =>
    obtain ⟨t, ht⟩ := ih (r.name.reverse ++ marker :: (r.lead.reverse ++ behind))
    refine ⟨r.lead ++ marker :: (r.name ++ t), ?_⟩
    rw [Occurrence.listFrom_of_some h]
    dsimp only
    rw [List.append_assoc, List.cons_append, List.append_assoc, ← ht]
    exact Reference.eq_of_first? h

theorem Occurrence.mem_of_mem_gap {o : Occurrence} {front : Text} {c : Char} (h : c ∈ o.gap front) :
    c ∈ front :=
  List.mem_of_mem_take (List.mem_reverse.mp h)

theorem Occurrence.mem_of_mem_likeAny {o : Occurrence} {front field : Text} {negated : Bool}
    (h : o.context = .likeAny front field negated) {c : Char} (hc : c ∈ front ∨ c ∈ field) :
    c ∈ o.behind := by
  obtain ⟨gap, d, heq, -⟩ := Context.exists_of_ofBehind_eq_likeAny h
  rw [heq]
  refine List.mem_append_right _ (List.mem_cons_of_mem _ ?_)
  rcases hc with hc | hc
  · exact List.mem_append_right _ hc
  · exact List.mem_append_left _ (List.mem_reverse.mpr hc)

end NamedSql
