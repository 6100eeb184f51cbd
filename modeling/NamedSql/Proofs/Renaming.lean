import NamedSql.Proofs.Acceptance
import NamedSql.Proofs.Markers
import NamedSql.Proofs.Relabelling

/-! # Names are bound

The names of a text may be exchanged for others (`Reference.rename`), in the text and in the
capacities, and the SQL stays the same. A new name may be longer than the old one, so everything
behind it stands elsewhere, and it may be spelled like a keyword or like digits.

Nothing of this matters. The renamed text has the same references under their new names
(`first?_rename`). What lies behind a reference ends, in either text, in the reference before it,
and the marker of that one is in its last word (`Occurrence.Renamed`); so a name is part of a word
that is no keyword, or of a field that is refused. Therefore an occurrence and the renamed one write
the same (`of_forall₂_renamed`), and the layout is that of the renamed uses. -/

namespace NamedSql

open Layout
open Context (SealedBy Alike alike_of_nil_or_sealedBy)

/-! ### Renamed texts -/

namespace Reference

/-- The text with other names in its references. -/
def rename (marker : Char) (f : Text → Text) (text : Text) : Text :=
  match _h : first? marker text with
  | none => text
  | some r => r.lead ++ marker :: (f r.name ++ rename marker f r.tail)
termination_by text.length
decreasing_by exact length_tail_lt _h

variable {marker : Char} {f : Text → Text} {text : Text}

theorem rename_of_none (h : first? marker text = none) : rename marker f text = text := by
  rw [rename]
  split <;> simp_all

theorem rename_of_some {r : Reference} (h : first? marker text = some r) :
    rename marker f text = r.lead ++ marker :: (f r.name ++ rename marker f r.tail) := by
  rw [rename]
  split <;> simp_all

/-- A renamed text begins as the text does. -/
theorem head?_rename (marker : Char) (f : Text → Text) (text : Text) :
    (rename marker f text).head? = text.head? := by
  cases h : first? marker text with
  | none => rw [rename_of_none h]
  | some r =>
    rw [rename_of_some h, eq_of_first? h]
    cases r.lead <;> rfl

variable (hm : isWord marker = false)
include hm

/-- A reference is the first one where none begins in front of it. -/
theorem firstAfter?_append_marker {afterMarker : Bool} {lead name tail : Text}
    (hlead : firstAfter? marker afterMarker lead = none) (hlast : lead.getLast? ≠ some marker)
    (hafter : lead = [] → afterMarker = false) (hne : name ≠ [])
    (hword : ∀ c ∈ name, isWord c = true) (htail : ∀ c ∈ tail.head?, isWord c = false) :
    firstAfter? marker afterMarker (lead ++ marker :: (name ++ tail)) =
      some ⟨lead, name, tail⟩ := by
  induction lead generalizing afterMarker with
  | nil =>
    rw [hafter rfl, ← first?_eq_firstAfter?]
    refine first?_marker_append tail hne (fun hhead => ?_) hword htail
    exact ne_marker_of_isWord hm (hword marker (List.mem_of_head? hhead)) rfl
  | cons c lead ih =>
    obtain ⟨hstart, hrest⟩ := firstAfter?_cons_eq_none_iff.mp hlead
    have hc : lead = [] → (c == marker) = false := by
      rintro rfl
      simpa using hlast
    have hlast' : lead.getLast? ≠ some marker := by
      cases lead with
      | nil => simp
      | cons d lead => rwa [List.getLast?_cons_cons] at hlast
    rw [List.cons_append, firstAfter?, if_neg, ih hrest hlast' hc]
    · rfl
    · -- what follows the character is what followed it in `lead`, or the marker
      rintro ⟨heq, hfalse, hhead, htake⟩
      cases lead with
      | nil => exact hhead rfl
      | cons d lead =>
        have hfollows := takeWhile_isWord_ne_nil_iff.mp htake
        exact hstart ⟨heq, hfalse, hhead, hfollows⟩

/-- **The first reference of a renamed text** is the first one of the text, renamed. -/
theorem first?_rename {r : Reference} (h : first? marker text = some r) (hne : f r.name ≠ [])
    (hword : ∀ c ∈ f r.name, isWord c = true) :
    first? marker (rename marker f text) = some ⟨r.lead, f r.name, rename marker f r.tail⟩ := by
  have hlead := first?_lead h
  rw [first?_eq_firstAfter?] at hlead
  rw [rename_of_some h, first?_eq_firstAfter?]
  refine firstAfter?_append_marker hm hlead (getLast?_lead_ne h) (fun _ => rfl) hne hword
    fun c hc => ?_
  rw [head?_rename] at hc
  exact not_isWord_head_tail h c hc

end Reference

/-! ### Renamed occurrences -/

namespace Occurrence

/-- An occurrence and the renamed one. The text since the previous reference is the same, and what
lies behind that makes no difference to the context. -/
inductive Renamed (marker : Char) (f : Text → Text) : Occurrence → Occurrence → Prop
  | mk (l b b' name : Text)
      (halike : Alike marker marker b b' (Context.ofBehind (l ++ b)) (Context.ofBehind (l ++ b'))) :
      Renamed marker f ⟨l ++ b, b.length, name⟩ ⟨l ++ b', b'.length, f name⟩

section

variable {marker : Char} {f : Text → Text} {o o' : Occurrence} (h : Renamed marker f o o')
include h

theorem Renamed.name_eq : o'.name = f o.name := by
  cases h
  rfl

variable {capacities capacities' : Dict Nat}
  (hcap : capacities'.get? o'.name = capacities.get? o.name)
include hcap

/-- The use is the same, of a parameter with another name. -/
theorem Renamed.use_eq (dialect : Dialect) :
    o'.use dialect capacities' = (o.use dialect capacities).rename f := by
  have hroom : dialect.room capacities' o'.name = dialect.room capacities o.name := by
    rw [Dialect.room, hcap, Dialect.room]
  rw [use, hroom]
  cases h with
  | mk l b b' name halike =>
    obtain ⟨hkind, hnegated⟩ := halike.kind_eq (dialect.room capacities name)
    exact congrArg₂ (Param.mk (f name)) hkind hnegated

/-- Nothing is wrong with the one if nothing is wrong with the other. A field that reaches into the
previous reference does so on both sides. -/
theorem Renamed.refused_iff :
    o'.refusal? capacities' = none ↔ o.refusal? capacities = none := by
  rw [refusal?_eq_none_iff, refusal?_eq_none_iff, hcap]
  cases h with
  | mk l b b' name halike =>
    unfold context
    dsimp only
    generalize Context.ofBehind (l ++ b) = here at halike ⊢
    generalize Context.ofBehind (l ++ b') = there at halike ⊢
    cases halike with
    | scalar => simp
    | inList negated => simp
    | within front field negated => simp [FieldTaken]
    | across negated hx hfront hx' hfront' =>
      simp [FieldTaken, Nat.not_le.mpr hfront, Nat.not_le.mpr hfront']

/-- What is written is the same, if nothing is wrong with the occurrence. -/
theorem Renamed.replacement_eq (dialect : Dialect) (hfree : o.refusal? capacities = none) :
    o'.replacement dialect capacities' = o.replacement dialect capacities := by
  have hroom : dialect.room capacities' o'.name = dialect.room capacities o.name := by
    rw [Dialect.room, hcap, Dialect.room]
  have htaken := (refusal?_eq_none_iff.mp hfree).2.2
  unfold replacement
  rw [hroom]
  cases h with
  | mk l b b' name halike =>
    unfold context at htaken ⊢
    dsimp only at htaken ⊢
    generalize Context.ofBehind (l ++ b) = here at halike htaken ⊢
    generalize Context.ofBehind (l ++ b') = there at halike ⊢
    cases halike with
    | scalar =>
      dsimp only
      rw [gap_append _ _ _ rfl, gap_append _ _ _ rfl]
    | inList negated =>
      dsimp only
      rw [gap_append _ _ _ rfl, gap_append _ _ _ rfl]
    | within front field negated =>
      dsimp only
      rw [gap_append _ _ _ rfl, gap_append _ _ _ rfl]
    | @across front field front' field' negated hx hfront hx' hfront' =>
      exact absurd (Or.inl hfront) (htaken front field negated rfl)

end

section

variable {dialect : Dialect} {f : Text → Text} (hm : dialect.marker ≠ '(')
  (hword : isWord dialect.marker = false)
include hm hword

/-- **The occurrences of a renamed text** are those of the text, renamed, and the same text is left
behind them. -/
theorem forall₂_renamed {behind behind' : Text}
    (hbehind : behind = [] ∧ behind' = [] ∨
      SealedBy dialect.marker behind ∧ SealedBy dialect.marker behind') (ahead : Text)
    (hf : ∀ name ∈ Reference.names dialect.marker ahead,
      f name ≠ [] ∧ ∀ c ∈ f name, isWord c = true) :
    List.Forall₂ (Renamed dialect.marker f) (listFrom dialect.marker behind ahead).1
        (listFrom dialect.marker behind' (Reference.rename dialect.marker f ahead)).1 ∧
      (listFrom dialect.marker behind' (Reference.rename dialect.marker f ahead)).2 =
        (listFrom dialect.marker behind ahead).2 := by
  induction ahead using Reference.scan_induction dialect.marker generalizing behind behind' with
  | none ahead h =>
    rw [Reference.rename_of_none h, listFrom_of_none h, listFrom_of_none h]
    exact ⟨.nil, rfl⟩
  | some ahead r h ih =>
    rw [Reference.names_of_some h] at hf
    obtain ⟨⟨hne, hname⟩, hlater⟩ := List.forall_mem_cons.mp hf
    have h' := Reference.first?_rename (f := f) hword h hne hname
    rw [listFrom_of_some h, listFrom_of_some h']
    obtain ⟨hall, hrest⟩ := ih (Or.inr ⟨sealedBy_marker hm h _, sealedBy_marker hm h' _⟩) hlater
    refine ⟨.cons (.mk _ _ _ _ ?_) hall, hrest⟩
    have hmarker := unspelled_of_canMark dialect.canMark_marker
    exact alike_of_nil_or_sealedBy hbehind hmarker hmarker _

end

/-- **Renamed occurrences** are in order if the others are, make the same uses of renamed
parameters, and write the same. -/
theorem of_forall₂_renamed {marker : Char} {f : Text → Text} {found found' : List Occurrence}
    (h : List.Forall₂ (Renamed marker f) found found') {capacities capacities' : Dict Nat}
    (hcap : ∀ o ∈ found, capacities'.get? (f o.name) = capacities.get? o.name) (dialect : Dialect)
    (hfree : ∀ o ∈ found, o.refusal? capacities = none) :
    (∀ o ∈ found', o.refusal? capacities' = none) ∧
      found'.map (use dialect capacities') =
        (found.map (use dialect capacities)).map (Param.rename f) ∧
      found'.flatMap (replacement dialect capacities') =
        found.flatMap (replacement dialect capacities) := by
  induction h with
  | nil => exact ⟨List.forall_mem_nil _, rfl, rfl⟩
  | @cons o o' found found' hone hall ih =>
    obtain ⟨hcap, hcaps⟩ := List.forall_mem_cons.mp hcap
    obtain ⟨hfree, hfrees⟩ := List.forall_mem_cons.mp hfree
    obtain ⟨hrefusal, huse, hwritten⟩ := ih hcaps hfrees
    rw [← hone.name_eq] at hcap
    refine ⟨List.forall_mem_cons.mpr ⟨(hone.refused_iff hcap).mpr hfree, hrefusal⟩, ?_, ?_⟩
    · rw [List.map_cons, List.map_cons, List.map_cons, huse, hone.use_eq hcap]
    · rw [List.flatMap_cons, List.flatMap_cons, hwritten, hone.replacement_eq hcap dialect hfree]

end Occurrence

theorem Occurrence.map_name_use (dialect : Dialect) (capacities : Dict Nat)
    (found : List Occurrence) :
    (found.map (use dialect capacities)).map (·.name) = found.map (·.name) := by
  rw [List.map_map]
  rfl

/-! ### Renamed capacities -/

/-- The values under other names. -/
def Dict.rename {α : Type} (f : Text → Text) (dict : Dict α) : Dict α :=
  ofList (dict.entries.map fun entry => (f entry.1, entry.2))

section

variable {α : Type} {f : Text → Text} {dict : Dict α}

theorem Dict.mem_names_rename {key : Text} (h : key ∈ (dict.rename f).names) :
    ∃ name ∈ dict.names, f name = key := by
  obtain ⟨value, hvalue⟩ := mem_names_iff.mp h
  rw [rename, get?_ofList] at hvalue
  have hmem := exists_lookup_eq_some_iff.mp ⟨value, hvalue⟩
  rw [List.map_reverse, List.mem_reverse, List.map_map] at hmem
  obtain ⟨entry, hentry, heq⟩ := List.mem_map.mp hmem
  exact ⟨entry.1, List.mem_map_of_mem hentry, heq⟩

/-- A value is found under the other name. -/
theorem Dict.get?_rename {s : Set Text} (hinj : Set.InjOn f s)
    (hnames : ∀ name ∈ dict.names, name ∈ s) {name : Text} (hname : name ∈ s) :
    (dict.rename f).get? (f name) = dict.get? name := by
  have hnodup : ((dict.entries.map fun entry => (f entry.1, entry.2)).reverse.map (·.1)).Nodup := by
    rw [List.map_reverse, List.nodup_reverse, List.map_map]
    show (dict.entries.map (f ∘ (·.1))).Nodup
    rw [← List.map_map]
    exact List.Nodup.map_on (fun a ha b hb heq => hinj (hnames a ha) (hnames b hb) heq)
      dict.nodup_names
  ext value
  rw [rename, get?_ofList, lookup_eq_some_iff hnodup, get?, lookup_eq_some_iff dict.nodup_names,
    List.mem_reverse, List.mem_map]
  constructor
  · rintro ⟨⟨other, value'⟩, hentry, heq⟩
    obtain ⟨hother, rfl⟩ := Prod.mk.inj heq
    obtain rfl := hinj (hnames other (List.mem_map_of_mem hentry)) hname hother
    exact hentry
  · exact fun hentry => ⟨_, hentry, rfl⟩

end

/-! ### Compilation -/

section

variable {dialect : Dialect} {f : Text → Text} {text : Text} {capacities : Dict Nat} {plan : Plan}

open Occurrence

/-- **Names are bound**: other names in the references of a text, different ones for different ones,
leave the SQL as it is. The plan has the same placeholders and the renamed parameters; and if no
scalar is called like an element of a list, before and after, each key of a parameter is exchanged
for that of the renamed one, and its positions are the same. -/
theorem compile_rename (hm : dialect.marker ≠ '(') (hword : isWord dialect.marker = false)
    (h : dialect.compile text capacities = .ok plan)
    (hf : ∀ name ∈ Reference.names dialect.marker text,
      f name ≠ [] ∧ ∀ c ∈ f name, isWord c = true)
    (hinj : Set.InjOn f {name | name ∈ Reference.names dialect.marker text}) :
    ∃ plan', dialect.compile (Reference.rename dialect.marker f text) (capacities.rename f) =
        .ok plan' ∧
      Reference.names dialect.marker (Reference.rename dialect.marker f text) =
        (Reference.names dialect.marker text).map f ∧
      plan'.sql = plan.sql ∧ plan'.placeholders = plan.placeholders ∧
      plan'.params = plan.params.map (Param.rename f) ∧
      (plan.Unambiguous → plan'.Unambiguous → ∃ g : Text → Text,
        (∀ param ∈ plan.params, param.keys.map g = (param.rename f).keys) ∧
        plan'.entries = plan.entries.map fun entry => (g entry.1, entry.2)) := by
  obtain ⟨hfree, hu, hlists⟩ := (exists_compile_eq_ok_iff hm text).mp ⟨plan, h⟩
  obtain ⟨hsql, hlayout, -⟩ := exists_of_compile_eq hm h
  obtain ⟨hall, hrest⟩ : List.Forall₂ (Renamed dialect.marker f)
        (occurrences dialect.marker text).1
        (occurrences dialect.marker (Reference.rename dialect.marker f text)).1 ∧
      (occurrences dialect.marker (Reference.rename dialect.marker f text)).2 =
        (occurrences dialect.marker text).2 :=
    forall₂_renamed hm hword (Or.inl ⟨rfl, rfl⟩) text hf
  -- a name with a capacity of its own occurs
  have hnames : ∀ name ∈ capacities.names, name ∈ Reference.names dialect.marker text :=
    fun name hname => List.mem_map.mpr (hlists name hname)
  have hcap : ∀ o ∈ (occurrences dialect.marker text).1,
      (capacities.rename f).get? (f o.name) = capacities.get? o.name :=
    fun o ho => Dict.get?_rename hinj hnames (List.mem_map_of_mem ho)
  obtain ⟨hfree', huses, hwritten⟩ := of_forall₂_renamed hall hcap dialect hfree
  have hrenamed : Reference.names dialect.marker (Reference.rename dialect.marker f text) =
      (Reference.names dialect.marker text).map f := by
    have hmap := congrArg (List.map (·.name)) huses
    rwa [map_name_rename, map_name_use, map_name_use] at hmap
  have hinj' : Set.InjOn f {name | name ∈ ((occurrences dialect.marker text).1.map
      (use dialect capacities)).map (·.name)} := by
    rw [map_name_use]
    exact hinj
  obtain ⟨plan', h'⟩ := (exists_compile_eq_ok_iff hm _).mpr
    ⟨hfree', huses ▸ uniform_rename hinj' hu, fun key hkey => by
      obtain ⟨name, hname, rfl⟩ := Dict.mem_names_rename hkey
      have hmem := List.mem_map_of_mem (f := f) (hnames name hname)
      rw [← hrenamed] at hmem
      exact List.mem_map.mp hmem⟩
  obtain ⟨hsql', hlayout', -⟩ := exists_of_compile_eq hm h'
  rw [huses] at hlayout'
  obtain ⟨hplaceholders, hparams⟩ := params_rename hinj'
  rw [← hlayout, ← hlayout'] at hplaceholders hparams
  refine ⟨plan', h', hrenamed, ?_, hplaceholders, hparams, fun hclash hclash' => ?_⟩
  · rw [hsql', hwritten, hrest, hsql]
  · exact exists_rekey hlayout hlayout' hu hinj' hclash hclash'

/-- A scalar that is called NOT stands in front of a keyword. -/
theorem compile_rename_keyword :
    let text := "x = :a IN :b".toList
    let capacities := Dict.empty.insert ['b'] 2
    let f := fun name : Text => if name = ['a'] then "NOT".toList else "12".toList
    let plan : Plan := ⟨text, "x = ? IN (?, ?)".toList,
      ⟨3, [⟨['a'], .scalar, false⟩, ⟨['b'], .list 2, false⟩],
        [(['a'], [1]), ("b__0".toList, [2]), ("b__1".toList, [3])]⟩⟩
    Dialect.standard.marker ≠ '(' ∧ isWord Dialect.standard.marker = false ∧
      Dialect.standard.compile text capacities = .ok plan ∧
      (∀ name ∈ Reference.names ':' text, f name ≠ [] ∧ ∀ c ∈ f name, isWord c = true) ∧
      Set.InjOn f {name | name ∈ Reference.names ':' text} ∧
      ∃ plan', Dialect.standard.compile "x = :NOT IN :12".toList
          (Dict.empty.insert "12".toList 2) = .ok plan' ∧ plan'.sql = plan.sql ∧
        plan'.params = [⟨"NOT".toList, .scalar, false⟩, ⟨"12".toList, .list 2, false⟩] := by
  intro text capacities f plan
  have hm : Dialect.standard.marker ≠ '(' := by decide
  have hword : isWord Dialect.standard.marker = false := by decide +kernel
  have h : Dialect.standard.compile text capacities = .ok plan := by decide +kernel
  have hnames : Reference.names ':' text = [['a'], ['b']] := by decide +kernel
  have hf : ∀ name ∈ Reference.names ':' text, f name ≠ [] ∧ ∀ c ∈ f name, isWord c = true := by
    rw [hnames]
    refine List.forall_mem_cons.mpr ⟨⟨by decide, ?_⟩, List.forall_mem_singleton.mpr ⟨by decide, ?_⟩⟩
    · exact List.all_eq_true.mp (by decide +kernel)
    · exact List.all_eq_true.mp (by decide +kernel)
  have hinj : Set.InjOn f {name | name ∈ Reference.names ':' text} := by
    rw [hnames]
    intro a ha b hb heq
    have hnodup : ([['a'], ['b']].map f).Nodup := by decide
    exact List.inj_on_of_nodup_map hnodup ha hb heq
  obtain ⟨plan', h', -, hsql, -, hparams, -⟩ := compile_rename hm hword h hf hinj
  have htext : Reference.rename ':' f text = "x = :NOT IN :12".toList := by decide +kernel
  have hcapacities : capacities.rename f = Dict.empty.insert "12".toList 2 := by decide +kernel
  rw [hcapacities] at h'
  exact ⟨hm, hword, h, hf, hinj, plan', htext ▸ h', hsql, hparams⟩

end

end NamedSql
