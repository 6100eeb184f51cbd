import Mathlib.Data.List.Find
import Mathlib.Data.Set.Function
import NamedSql.Proofs.Consistency
import NamedSql.Proofs.Filling

/-! # Layouts under other names

If the names that are used are exchanged for others, different names for different ones, then a
layout has the same placeholders and the same parameters under their new names (`params_rename`).

With the keys it is another matter, since the name of a scalar may be spelled like the slot key of
an element: the two share a key then, and perhaps not under their new names, or the other way round.
Where neither happens the exchange of names comes to an exchange of keys (`Plan.rekey`), which takes
the keys of each parameter to those of the renamed one and never two keys to one; so the entries are
the same up to this exchange (`exists_rekey`). -/

namespace NamedSql

open Layout

/-- The parameter under another name. -/
def Param.rename (f : Text → Text) (param : Param) : Param := { param with name := f param.name }

@[simp] theorem Param.name_rename (f : Text → Text) (param : Param) :
    (param.rename f).name = f param.name := rfl

@[simp] theorem Param.kind_rename (f : Text → Text) (param : Param) :
    (param.rename f).kind = param.kind := rfl

@[simp] theorem Param.negated_rename (f : Text → Text) (param : Param) :
    (param.rename f).negated = param.negated := rfl

theorem Param.length_keys_rename (f : Text → Text) (param : Param) :
    (param.rename f).keys.length = param.keys.length := by
  unfold keys
  rw [kind_rename]
  cases param.kind <;> simp

namespace Layout

/-! ### Lists without duplicates -/

theorem eraseDups_map {α β : Type} [BEq α] [LawfulBEq α] [BEq β] [LawfulBEq β] {f : α → β}
    {l : List α} (hf : Set.InjOn f {a | a ∈ l}) : (l.map f).eraseDups = l.eraseDups.map f := by
  induction l using List.reverseRecOn with
  | nil => rfl
  | append_singleton l a ih =>
    have hl : Set.InjOn f {b | b ∈ l} := hf.mono fun b hb => List.mem_append_left _ hb
    have hmem : f a ∈ l.map f ↔ a ∈ l := by
      constructor
      · intro h
        obtain ⟨b, hb, heq⟩ := List.mem_map.mp h
        exact hf (List.mem_append_left _ hb) (List.mem_append_right _ List.mem_cons_self) heq ▸ hb
      · exact List.mem_map_of_mem
    rw [List.map_append, List.map_singleton, eraseDups_concat, eraseDups_concat, ih hl]
    simp only [hmem]
    split_ifs <;> simp

/-- A key has the positions that it had under its old name. -/
theorem positionsOf_map {f : Text → Text} {key : Text} {keys : List Text}
    (hf : ∀ other ∈ keys, f other = f key → other = key) :
    positionsOf (f key) (keys.map f) = positionsOf key keys := by
  induction keys using List.reverseRecOn with
  | nil => rfl
  | append_singleton keys last ih =>
    have hlast : f last = f key ↔ last = key :=
      ⟨hf last (List.mem_append_right _ List.mem_cons_self), fun h => h ▸ rfl⟩
    rw [List.map_append, List.map_singleton, positionsOf_concat, positionsOf_concat,
      ih fun other hother => hf other (List.mem_append_left _ hother), List.length_map]
    simp only [hlast]

theorem entriesOf_map {f : Text → Text} {keys : List Text} (hf : Set.InjOn f {key | key ∈ keys}) :
    entriesOf (keys.map f) = (entriesOf keys).map fun entry => (f entry.1, entry.2) := by
  rw [entriesOf, entriesOf, eraseDups_map hf, List.map_map, List.map_map]
  refine List.map_congr_left fun key hkey => ?_
  have hmem : key ∈ keys := List.mem_eraseDups.mp hkey
  exact congrArg (Prod.mk (f key)) (positionsOf_map fun other hother heq => hf hother hmem heq)

/-! ### Parameters -/

section

variable {f : Text → Text} {uses : List Param}

/-- What the uses of a name say, they say of the other name. -/
theorem merge_map_rename {name : Text} (hf : ∀ use ∈ uses, f use.name = f name → use.name = name) :
    merge (uses.map (Param.rename f)) (f name) = (merge uses name).rename f := by
  have hname : ∀ use ∈ uses, ((use.rename f).name == f name) = (use.name == name) := by
    intro use huse
    rw [Bool.eq_iff_iff, beq_iff_eq, beq_iff_eq]
    exact ⟨hf use huse, fun h => h ▸ rfl⟩
  have hfind : ((uses.map (Param.rename f)).find? fun use => use.name == f name) =
      (uses.find? fun use => use.name == name).map (Param.rename f) := by
    rw [List.find?_map]
    exact congrArg _ (List.find?_congr hname)
  have hany : ((uses.map (Param.rename f)).any fun use => use.name == f name && use.negated) =
      uses.any fun use => use.name == name && use.negated := by
    rw [List.any_map, Bool.eq_iff_iff, List.any_eq_true, List.any_eq_true]
    refine exists_congr fun use => and_congr_right fun huse => ?_
    rw [Function.comp, hname use huse, Param.negated_rename]
  rw [merge, hfind, hany, Option.map_map]
  rfl

theorem map_name_rename (f : Text → Text) (uses : List Param) :
    (uses.map (Param.rename f)).map (·.name) = (uses.map (·.name)).map f := by
  rw [List.map_map, List.map_map]
  rfl

variable (hinj : Set.InjOn f {name | name ∈ uses.map (·.name)})
include hinj

/-- **The placeholders and the parameters** are the same, the parameters under their new names. -/
theorem params_rename :
    (ofUses (uses.map (Param.rename f))).placeholders = (ofUses uses).placeholders ∧
      (ofUses (uses.map (Param.rename f))).params =
        (ofUses uses).params.map (Param.rename f) := by
  constructor
  · rw [ofUses, ofUses]
    dsimp only
    rw [List.length_flatMap, List.length_flatMap, List.map_map]
    exact congrArg List.sum (List.map_congr_left fun use _ => use.length_keys_rename f)
  · rw [ofUses, ofUses]
    dsimp only
    rw [map_name_rename, eraseDups_map hinj, List.map_map, List.map_map]
    refine List.map_congr_left fun name hname => merge_map_rename fun use huse heq => ?_
    exact hinj (List.mem_map_of_mem huse) (List.mem_eraseDups.mp hname) heq

theorem uniform_rename (hu : Uniform uses) : Uniform (uses.map (Param.rename f)) := by
  intro use' huse'
  obtain ⟨use, huse, rfl⟩ := List.mem_map.mp huse'
  rw [Param.name_rename, merge_map_rename fun other hother heq =>
    hinj (List.mem_map_of_mem hother) (List.mem_map_of_mem huse) heq]
  exact hu use huse

end

end Layout

/-! ### Keys -/

/-- The key of the renamed parameter in place of a key of the parameter. -/
def Plan.rekey (plan : Plan) (f : Text → Text) (key : Text) : Text :=
  (Dict.lookup key (plan.params.flatMap fun param => param.keys.zip (param.rename f).keys)).getD key

section

variable {f : Text → Text} {uses : List Param} {plan plan' : Plan}
  (hplan : plan.layout = ofUses uses)
include hplan

/-- Where no key belongs to two parameters, the keys of each are exchanged for those of the renamed
one. -/
theorem map_rekey_keys (hclash : plan.Unambiguous) {param : Param} (hparam : param ∈ plan.params) :
    param.keys.map (plan.rekey f) = (param.rename f).keys := by
  have hlength := param.length_keys_rename f
  have hnames : (plan.params.flatMap fun param => param.keys.zip (param.rename f).keys).map (·.1) =
      plan.params.flatMap Param.keys := by
    rw [List.map_flatMap]
    exact List.flatMap_congr fun param _ => List.map_fst_zip (param.length_keys_rename f).ge
  have hnodup := nodup_keys hplan hclash
  rw [← hnames] at hnodup
  refine List.ext_getElem (by rw [List.length_map, hlength]) fun i hi hi' => ?_
  have hi : i < param.keys.length := by rwa [List.length_map] at hi
  have hpair : (param.keys[i], (param.rename f).keys[i]) ∈
      param.keys.zip (param.rename f).keys := by
    refine List.mem_iff_getElem.mpr ⟨i, ?_, List.getElem_zip⟩
    rw [List.length_zip, hlength, Nat.min_self]
    exact hi
  rw [List.getElem_map, Plan.rekey, (Dict.lookup_eq_some_iff hnodup).mpr
    (List.mem_flatMap.mpr ⟨param, hparam, hpair⟩), Option.getD_some]

/-- **The entries** are the same up to an exchange of keys, if no scalar is called like an element
of a list, before and after. -/
theorem exists_rekey (hplan' : plan'.layout = ofUses (uses.map (Param.rename f)))
    (hu : Uniform uses) (hinj : Set.InjOn f {name | name ∈ uses.map (·.name)})
    (hclash : plan.Unambiguous) (hclash' : plan'.Unambiguous) :
    ∃ g : Text → Text, (∀ param ∈ plan.params, param.keys.map g = (param.rename f).keys) ∧
      plan'.entries = plan.entries.map fun entry => (g entry.1, entry.2) := by
  have hmap : ∀ param ∈ plan.params, param.keys.map (plan.rekey f) = (param.rename f).keys :=
    fun _ => map_rekey_keys hplan hclash
  refine ⟨plan.rekey f, hmap, ?_⟩
  -- different keys are exchanged for different ones, since none is shared afterwards
  have hparams' : plan'.params = plan.params.map (Param.rename f) := by
    rw [Plan.params, Plan.params, hplan, hplan']
    exact (params_rename hinj).2
  have hnodup := nodup_keys hplan' hclash'
  rw [hparams', List.flatMap_map, ← List.flatMap_congr hmap, ← List.map_flatMap] at hnodup
  have hkeys : (uses.map (Param.rename f)).flatMap Param.keys =
      (uses.flatMap Param.keys).map (plan.rekey f) := by
    rw [List.flatMap_map, List.map_flatMap]
    refine List.flatMap_congr fun use huse => ?_
    have hparam : merge uses use.name ∈ plan.params := by
      rw [Plan.params, hplan]
      exact merge_mem_ofUses huse
    have hmapped := hmap _ hparam
    rw [keys_merge hu huse] at hmapped
    rw [hmapped, Param.keys, Param.keys, Param.kind_rename, Param.kind_rename, hu use huse]
    rfl
  rw [Plan.entries, Plan.entries, hplan, hplan', ofUses, ofUses]
  dsimp only
  rw [hkeys]
  refine entriesOf_map fun key hkey key' hkey' heq => ?_
  have hmem : ∀ key ∈ uses.flatMap Param.keys, key ∈ plan.params.flatMap Param.keys := by
    intro key hkey
    rw [Plan.params, hplan, List.mem_flatMap]
    exact (mem_flatMap_keys hu).mp hkey
  exact List.inj_on_of_nodup_map hnodup (hmem key hkey) (hmem key' hkey') heq

end

end NamedSql
