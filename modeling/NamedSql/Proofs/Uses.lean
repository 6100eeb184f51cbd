import Mathlib.Data.List.Induction
import Mathlib.Data.List.Nodup
import Mathlib.Tactic.SplitIfs
import NamedSql.Layout

/-! # A layout is told by its uses

Every reference that is expanded uses a parameter: under a name, as a kind, negated or not. One
use after the other, the keys of the placeholders form a list (`Param.keys`), and a layout is a
table of this list: it holds each name and each key once, in the order in which they first occur,
with what all their uses say of them (`Layout.ofUses`). One more use is refused if the name was used
as another kind, and otherwise becomes the last of the list (`add_ofUses`); so a layout that was
built from uses is their table (`of_foldlM_add`). -/

namespace NamedSql

/-! ### Keys -/

/-- The numeral of a slot key is what stands behind the last underscore. -/
theorem takeWhile_reverse_slotKey (name : Text) (index : Nat) :
    (slotKey name index).reverse.takeWhile (fun c => c != '_') =
      (Text.decimal index).reverse := by
  have hdigits : ∀ c ∈ (Text.decimal index).reverse, (c != '_') = true := by
    intro c hc
    rw [List.mem_reverse] at hc
    rw [bne_iff_ne]
    rintro rfl
    exact Nat.underscore_not_in_toDigits hc
  rw [slotKey, List.reverse_append, List.takeWhile_append_of_pos hdigits]
  simp

/-- The name and the number of a slot key, read from its end. -/
def readSlotKey (key : Text) : Text × Nat :=
  let numeral := (key.reverse.takeWhile fun c => c != '_').reverse
  (key.take (key.length - (numeral.length + 2)), Nat.ofDigitChars 10 numeral 0)

/-- **A slot key is read back**, whatever its name ends in. -/
theorem readSlotKey_slotKey (name : Text) (index : Nat) :
    readSlotKey (slotKey name index) = (name, index) := by
  have hname : (slotKey name index).take
      ((slotKey name index).length - ((Text.decimal index).length + 2)) = name := by
    have hlength : (slotKey name index).length - ((Text.decimal index).length + 2) =
        name.length := by
      simp only [slotKey, List.length_append, List.length_cons, List.length_nil]
      omega
    rw [hlength, slotKey, List.append_assoc, List.take_left]
  rw [readSlotKey, takeWhile_reverse_slotKey, List.reverse_reverse, hname, Text.decimal,
    Nat.ofDigitChars_ten_toDigits]

/-- The keys of different elements, or of lists of different names, differ. -/
theorem eq_of_slotKey_eq {name name' : Text} {i j : Nat} (h : slotKey name i = slotKey name' j) :
    name = name' ∧ i = j := by
  have hread := congrArg readSlotKey h
  rw [readSlotKey_slotKey, readSlotKey_slotKey] at hread
  exact Prod.mk.inj hread

/-- The keys of the placeholders of a parameter, in order. -/
def Param.keys (param : Param) : List Text :=
  match param.kind with
  | .scalar => [param.name]
  | .list capacity => (List.range capacity).map (slotKey param.name)

theorem Param.nodup_keys (param : Param) : param.keys.Nodup := by
  unfold keys
  split
  · exact List.nodup_singleton _
  · exact List.nodup_range.map fun i j h => (eq_of_slotKey_eq h).2

/-- A key of a parameter is its name, or the key of an element. -/
theorem Param.mem_keys {param : Param} {key : Text} :
    key ∈ param.keys ↔ param.kind = .scalar ∧ key = param.name ∨
      ∃ capacity, param.kind = .list capacity ∧ ∃ i < capacity, key = slotKey param.name i := by
  unfold keys
  split
  · rename_i hkind
    simp [hkind]
  · rename_i capacity hkind
    simp [hkind, eq_comm]

namespace Layout

/-- Adds one use of a parameter. -/
def add (layout : Layout) (use : Param) : Except Error Layout :=
  match declare use.name use.kind use.negated layout.params with
  | .error e => .error e
  | .ok params => .ok (use.keys.foldl push { layout with params })

theorem addScalar_eq_add (layout : Layout) (name : Text) :
    layout.addScalar name = layout.add ⟨name, .scalar, false⟩ := rfl

theorem addList_eq_add (layout : Layout) (name : Text) (capacity : Nat) (negated : Bool) :
    layout.addList name capacity negated = layout.add ⟨name, .list capacity, negated⟩ := rfl

/-! ### The table of the keys -/

/-- The positions of a key, counted from 1. -/
def positionsOf (key : Text) (keys : List Text) : List Nat :=
  (keys.zipIdx 1).filterMap fun (other, position) => if other = key then some position else none

theorem positionsOf_concat (key : Text) (keys : List Text) (last : Text) :
    positionsOf key (keys ++ [last]) =
      if last = key then positionsOf key keys ++ [keys.length + 1] else positionsOf key keys := by
  rw [positionsOf, List.zipIdx_append, List.filterMap_append]
  split_ifs with h
  · simp [positionsOf, h, Nat.add_comm]
  · simp [positionsOf, h]

theorem positionsOf_eq_nil {key : Text} {keys : List Text} (h : key ∉ keys) :
    positionsOf key keys = [] := by
  refine List.filterMap_eq_nil_iff.mpr fun ⟨other, position⟩ hmem => if_neg ?_
  rintro rfl
  exact h (List.fst_mem_of_mem_zipIdx hmem)

/-- Position `n + 1` belongs to the key with `n` keys in front of it. -/
theorem mem_positionsOf {key : Text} {keys : List Text} {position : Nat} :
    position ∈ positionsOf key keys ↔ ∃ n, position = n + 1 ∧ keys[n]? = some key := by
  rw [positionsOf, List.mem_filterMap]
  constructor
  · rintro ⟨⟨other, position'⟩, hmem, h⟩
    obtain ⟨hle, hget⟩ := List.mk_mem_zipIdx_iff_le_and_getElem?_sub.mp hmem
    dsimp only at h
    split_ifs at h with heq
    cases h
    subst heq
    exact ⟨position - 1, by omega, hget⟩
  · rintro ⟨n, rfl, hget⟩
    refine ⟨(key, n + 1), List.mk_mem_zipIdx_iff_le_and_getElem?_sub.mpr ⟨by omega, ?_⟩, if_pos rfl⟩
    simpa using hget

theorem eraseDups_concat {α : Type} [BEq α] [LawfulBEq α] (l : List α) (a : α) :
    (l ++ [a]).eraseDups = if a ∈ l then l.eraseDups else l.eraseDups ++ [a] := by
  rw [List.eraseDups_append]
  split_ifs with h <;> simp [List.removeAll, List.eraseDups_cons, h]

theorem nodup_eraseDups {α : Type} [BEq α] [LawfulBEq α] (l : List α) : l.eraseDups.Nodup := by
  induction l using List.reverseRecOn with
  | nil => exact List.nodup_nil
  | append_singleton l a ih =>
    rw [eraseDups_concat]
    split_ifs with h
    · exact ih
    · refine List.nodup_append'.mpr ⟨ih, List.nodup_singleton a, ?_⟩
      rw [List.disjoint_singleton, List.mem_eraseDups]
      exact h

theorem find?_beq {α : Type} [BEq α] [LawfulBEq α] (a : α) (l : List α) :
    (l.find? fun b => b == a) = if a ∈ l then some a else none := by
  induction l with
  | nil => rfl
  | cons b l ih =>
    by_cases h : b = a
    · simp [h]
    · simp [h, ih, Ne.symm h]

/-- Every key once, with its positions. -/
def entriesOf (keys : List Text) : List (Text × List Nat) :=
  keys.eraseDups.map fun key => (key, positionsOf key keys)

theorem record_map (key : Text) (position : Nat) (f : Text → List Nat) {l : List Text}
    (hl : l.Nodup) :
    record key position (l.map fun other => (other, f other)) =
      if key ∈ l then
        l.map fun other => (other, if key = other then f other ++ [position] else f other)
      else (l.map fun other => (other, f other)) ++ [(key, [position])] := by
  induction l with
  | nil => rfl
  | cons first rest ih =>
    obtain ⟨hfirst, hrest⟩ := List.nodup_cons.mp hl
    rw [List.map_cons, record]
    by_cases h : first = key
    · subst h
      rw [if_pos rfl, if_pos List.mem_cons_self, List.map_cons, if_pos rfl]
      refine congrArg _ (List.map_congr_left fun other hother => ?_)
      have hne : first ≠ other := fun heq => hfirst (heq ▸ hother)
      rw [if_neg hne]
    · rw [if_neg h, ih hrest]
      by_cases hmem : key ∈ rest
      · rw [if_pos hmem, if_pos (List.mem_cons_of_mem _ hmem), List.map_cons, if_neg (Ne.symm h)]
      · have hne : key ∉ first :: rest := by simp [Ne.symm h, hmem]
        rw [if_neg hmem, if_neg hne, List.cons_append]

/-- The next placeholder makes its key the last of the list. -/
theorem record_entriesOf (key : Text) (keys : List Text) :
    record key (keys.length + 1) (entriesOf keys) = entriesOf (keys ++ [key]) := by
  rw [entriesOf, record_map _ _ _ (nodup_eraseDups keys), entriesOf, eraseDups_concat]
  by_cases h : key ∈ keys
  · rw [if_pos (List.mem_eraseDups.mpr h), if_pos h]
    exact List.map_congr_left fun other _ => by rw [positionsOf_concat]
  · rw [if_neg (by rwa [List.mem_eraseDups]), if_neg h, List.map_append]
    congr 1
    · refine List.map_congr_left fun other hother => ?_
      have hne : key ≠ other := fun heq => h (heq ▸ List.mem_eraseDups.mp hother)
      rw [positionsOf_concat, if_neg hne]
    · rw [List.map_singleton, positionsOf_concat, if_pos rfl, positionsOf_eq_nil h,
        List.nil_append]

/-- Placeholders under several keys make these the last of the list. -/
theorem foldl_push (params : List Param) (more keys : List Text) :
    more.foldl push ⟨keys.length, params, entriesOf keys⟩ =
      ⟨(keys ++ more).length, params, entriesOf (keys ++ more)⟩ := by
  induction more generalizing keys with
  | nil => rw [List.append_nil]; rfl
  | cons key more ih =>
    have hpush : push ⟨keys.length, params, entriesOf keys⟩ key =
        ⟨(keys ++ [key]).length, params, entriesOf (keys ++ [key])⟩ := by
      rw [push, record_entriesOf, List.length_append, List.length_singleton]
    rw [List.foldl_cons, hpush, ih, List.append_assoc, List.singleton_append]

/-! ### The table of the names -/

/-- What the uses of a name say of its parameter: the kind is that of the first one, and it is
negated if one of them is. -/
def merge (uses : List Param) (name : Text) : Param where
  name := name
  kind := ((uses.find? fun use => use.name == name).map (·.kind)).getD .scalar
  negated := uses.any fun use => use.name == name && use.negated

/-- The layout that some uses make. -/
def ofUses (uses : List Param) : Layout where
  placeholders := (uses.flatMap Param.keys).length
  params := (uses.map (·.name)).eraseDups.map (merge uses)
  entries := entriesOf (uses.flatMap Param.keys)

@[simp] theorem ofUses_nil : ofUses [] = empty := rfl

theorem merge_concat_of_ne {use : Param} {name : Text} (h : use.name ≠ name) (uses : List Param) :
    merge (uses ++ [use]) name = merge uses name := by
  simp [merge, List.find?_append, h]

theorem merge_concat_of_mem {uses : List Param} {use : Param} (h : use.name ∈ uses.map (·.name)) :
    merge (uses ++ [use]) use.name =
      { merge uses use.name with negated := (merge uses use.name).negated || use.negated } := by
  obtain ⟨first, hfirst⟩ : ∃ first, (uses.find? fun u => u.name == use.name) = some first := by
    obtain ⟨u, hu, hname⟩ := List.mem_map.mp h
    exact Option.isSome_iff_exists.mp (List.find?_isSome.mpr ⟨u, hu, beq_iff_eq.mpr hname⟩)
  simp [merge, List.find?_append, hfirst]

theorem merge_append_of_not_mem {uses more : List Param} {name : Text}
    (h : name ∉ uses.map (·.name)) : merge (uses ++ more) name = merge more name := by
  have hne : ∀ use ∈ uses, use.name ≠ name := fun use huse heq =>
    h (List.mem_map.mpr ⟨use, huse, heq⟩)
  have hfind : (uses.find? fun use => use.name == name) = none := by
    rw [List.find?_eq_none]
    exact fun use huse => by simpa using hne use huse
  have hany : (uses.any fun use => use.name == name && use.negated) = false := by
    rw [List.any_eq_false]
    exact fun use huse => by simp [hne use huse]
  simp [merge, List.find?_append, hfind, hany]

theorem merge_concat_of_not_mem {uses : List Param} {use : Param}
    (h : use.name ∉ uses.map (·.name)) : merge (uses ++ [use]) use.name = use := by
  rw [merge_append_of_not_mem h]
  simp [merge]

/-- One more use of a parameter that is there must be of its kind, and may negate it. -/
theorem declare_map (name : Text) (kind : Kind) (negated : Bool) {f : Text → Param}
    (hf : ∀ n, (f n).name = n) {l : List Text} (hl : l.Nodup) :
    declare name kind negated (l.map f) =
      if name ∈ l then
        if (f name).kind = kind then
          .ok (l.map fun n =>
            if name = n then { f n with negated := (f n).negated || negated } else f n)
        else .error (.conflictingKinds name)
      else .ok (l.map f ++ [⟨name, kind, negated⟩]) := by
  induction l with
  | nil => rfl
  | cons first rest ih =>
    obtain ⟨hfirst, hrest⟩ := List.nodup_cons.mp hl
    rw [List.map_cons, declare]
    by_cases h : first = name
    · subst h
      rw [if_pos (hf first), if_pos List.mem_cons_self]
      split_ifs with hkind
      · rw [List.map_cons, if_pos rfl]
        have hrest : (rest.map fun n =>
            if first = n then { f n with negated := (f n).negated || negated } else f n) =
              rest.map f := by
          refine List.map_congr_left fun n hn => ?_
          have hne : first ≠ n := fun heq => hfirst (heq ▸ hn)
          rw [if_neg hne]
        rw [hrest]
      · rfl
    · rw [if_neg (by rwa [hf]), ih hrest]
      have hmem : name ∈ first :: rest ↔ name ∈ rest := by simp [Ne.symm h]
      by_cases hname : name ∈ rest
      · rw [if_pos hname, if_pos (hmem.mpr hname)]
        split_ifs with hkind
        · rw [Except.map, List.map_cons, if_neg (Ne.symm h)]
        · rfl
      · rw [if_neg hname, if_neg (mt hmem.mp hname)]
        rfl

/-! ### Adding a use -/

theorem declare_merge (uses : List Param) (use : Param) :
    declare use.name use.kind use.negated ((uses.map (·.name)).eraseDups.map (merge uses)) =
      if use.name ∈ uses.map (·.name) ∧ (merge uses use.name).kind ≠ use.kind then
        .error (.conflictingKinds use.name)
      else .ok (((uses ++ [use]).map (·.name)).eraseDups.map (merge (uses ++ [use]))) := by
  rw [declare_map _ _ _ (fun _ => rfl) (nodup_eraseDups _), List.map_append, List.map_singleton,
    eraseDups_concat]
  by_cases h : use.name ∈ uses.map (·.name)
  · rw [if_pos (List.mem_eraseDups.mpr h), if_pos h]
    by_cases hkind : (merge uses use.name).kind = use.kind
    · rw [if_pos hkind, if_neg fun hc => hc.2 hkind]
      refine congrArg Except.ok (List.map_congr_left fun n _ => ?_)
      split_ifs with hn
      · subst hn
        rw [merge_concat_of_mem h]
      · rw [merge_concat_of_ne hn]
    · rw [if_neg hkind, if_pos ⟨h, hkind⟩]
  · rw [if_neg (by rwa [List.mem_eraseDups]), if_neg h, if_neg fun hc => h hc.1, List.map_append,
      List.map_singleton, merge_concat_of_not_mem h]
    refine congrArg (fun params => Except.ok (params ++ [use])) (List.map_congr_left fun n hn => ?_)
    have hne : use.name ≠ n := fun heq => h (heq ▸ List.mem_eraseDups.mp hn)
    rw [merge_concat_of_ne hne]

/-- **One more use** of a name that was used as another kind is refused, and otherwise it becomes
the last of the uses. -/
theorem add_ofUses (uses : List Param) (use : Param) :
    (ofUses uses).add use =
      if use.name ∈ uses.map (·.name) ∧ (merge uses use.name).kind ≠ use.kind then
        .error (.conflictingKinds use.name)
      else .ok (ofUses (uses ++ [use])) := by
  have hparams := declare_merge uses use
  rw [add, ofUses]
  dsimp only
  split_ifs at hparams ⊢ with h
  · rw [hparams]
  · rw [hparams]
    refine congrArg Except.ok ((foldl_push _ use.keys _).trans ?_)
    rw [ofUses, List.flatMap_append, List.flatMap_singleton]

/-- Every use is of the kind of its parameter. -/
def Uniform (uses : List Param) : Prop := ∀ use ∈ uses, (merge uses use.name).kind = use.kind

theorem uniform_concat {uses : List Param} {use : Param} (h : Uniform uses)
    (huse : ¬(use.name ∈ uses.map (·.name) ∧ (merge uses use.name).kind ≠ use.kind)) :
    Uniform (uses ++ [use]) := by
  have hlast : (merge (uses ++ [use]) use.name).kind = use.kind := by
    by_cases hmem : use.name ∈ uses.map (·.name)
    · rw [merge_concat_of_mem hmem]
      by_contra hkind
      exact huse ⟨hmem, hkind⟩
    · rw [merge_concat_of_not_mem hmem]
  intro u hu
  rcases List.mem_append.mp hu with hu | hu
  · by_cases hname : use.name = u.name
    · rw [← h u hu, ← hname, merge_concat_of_mem (hname ▸ List.mem_map_of_mem hu)]
    · rw [merge_concat_of_ne hname, h u hu]
  · obtain rfl := List.mem_singleton.mp hu
    exact hlast

/-- A layout that was built from uses is their table. -/
theorem of_foldlM_add {more uses : List Param} {layout : Layout} (hu : Uniform uses)
    (h : more.foldlM add (ofUses uses) = .ok layout) :
    layout = ofUses (uses ++ more) ∧ Uniform (uses ++ more) := by
  induction more generalizing uses with
  | nil =>
    cases h
    rw [List.append_nil]
    exact ⟨rfl, hu⟩
  | cons use more ih =>
    rw [List.foldlM_cons, add_ofUses] at h
    split_ifs at h with hc
    · cases h
    · rw [← List.singleton_append, ← List.append_assoc]
      exact ih (uniform_concat hu hc) h

/-! ### Reading a table -/

theorem name_of_mem_ofUses {uses : List Param} {param : Param} (h : param ∈ (ofUses uses).params) :
    param.name ∈ uses.map (·.name) ∧ merge uses param.name = param := by
  obtain ⟨name, hname, rfl⟩ := List.mem_map.mp h
  exact ⟨List.mem_eraseDups.mp hname, rfl⟩

theorem merge_mem_ofUses {uses : List Param} {use : Param} (h : use ∈ uses) :
    merge uses use.name ∈ (ofUses uses).params :=
  List.mem_map_of_mem (List.mem_eraseDups.mpr (List.mem_map_of_mem h))

theorem exists_merge_eq {uses : List Param} {param : Param} (h : param ∈ (ofUses uses).params) :
    ∃ use ∈ uses, merge uses use.name = param := by
  obtain ⟨hname, hmerge⟩ := name_of_mem_ofUses h
  obtain ⟨use, huse, heq⟩ := List.mem_map.mp hname
  exact ⟨use, huse, by rw [heq, hmerge]⟩

/-- The parameters stand in the order of their first uses. -/
theorem names_ofUses (uses : List Param) :
    (ofUses uses).params.map (·.name) = (uses.map (·.name)).eraseDups := by
  rw [ofUses, List.map_map]
  exact List.map_id'' (fun _ => rfl) _

/-- No two parameters have the same name. -/
theorem nodup_names_ofUses (uses : List Param) :
    ((ofUses uses).params.map (·.name)).Nodup := by
  rw [names_ofUses]
  exact nodup_eraseDups _

/-- A use and its parameter have the same keys. -/
theorem keys_merge {uses : List Param} (hu : Uniform uses) {use : Param} (h : use ∈ uses) :
    (merge uses use.name).keys = use.keys := by
  rw [Param.keys, Param.keys, hu use h]
  rfl

/-- The keys that were used are those of the parameters. -/
theorem mem_flatMap_keys {uses : List Param} (hu : Uniform uses) {key : Text} :
    key ∈ uses.flatMap Param.keys ↔ ∃ param ∈ (ofUses uses).params, key ∈ param.keys := by
  rw [List.mem_flatMap]
  constructor
  · rintro ⟨use, huse, hkey⟩
    exact ⟨merge uses use.name, merge_mem_ofUses huse, by rwa [keys_merge hu huse]⟩
  · rintro ⟨param, hparam, hkey⟩
    obtain ⟨use, huse, rfl⟩ := exists_merge_eq hparam
    rw [keys_merge hu huse] at hkey
    exact ⟨use, huse, hkey⟩

theorem param?_ofUses_eq (uses : List Param) (name : Text) :
    (ofUses uses).param? name =
      if name ∈ uses.map (·.name) then some (merge uses name) else none := by
  have h : ((fun param : Param => param.name == name) ∘ merge uses) = fun n => n == name := rfl
  rw [param?, ofUses, List.find?_map, h, find?_beq]
  simp only [List.mem_eraseDups]
  split_ifs <;> rfl

/-- A name that was used is found. -/
theorem param?_ofUses {uses : List Param} {use : Param} (h : use ∈ uses) :
    (ofUses uses).param? use.name = some (merge uses use.name) := by
  rw [param?_ofUses_eq, if_pos (List.mem_map_of_mem h)]

theorem positions?_ofUses_eq (uses : List Param) (key : Text) :
    (ofUses uses).positions? key =
      if key ∈ uses.flatMap Param.keys then some (positionsOf key (uses.flatMap Param.keys))
      else none := by
  have h : ((fun entry : Text × List Nat => entry.1 == key) ∘
      fun k => (k, positionsOf k (uses.flatMap Param.keys))) = fun k => k == key := rfl
  rw [positions?, ofUses, entriesOf, List.find?_map, h, find?_beq]
  simp only [List.mem_eraseDups]
  split_ifs <;> rfl

theorem positions?_ofUses {uses : List Param} {key : Text} (h : key ∈ uses.flatMap Param.keys) :
    (ofUses uses).positions? key = some (positionsOf key (uses.flatMap Param.keys)) := by
  rw [positions?_ofUses_eq, if_pos h]

end Layout

end NamedSql
