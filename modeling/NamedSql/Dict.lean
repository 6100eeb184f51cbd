import NamedSql.Text.Basic

/-! # Dictionaries

A finite map from names to values, kept as its entries in ascending order of the names, the order
of code points. The order is part of the type, so two dictionaries with the same entries are equal,
in whatever order they were built (`ext_get?`). `get?_insert` says what an insertion changes. -/

namespace NamedSql

theorem Text.lt_of_not_lt {a b : Text} (hlt : ¬a < b) (hne : a ≠ b) : b < a :=
  Decidable.byContradiction fun h =>
    hne (List.le_antisymm (List.not_lt.mp h) (List.not_lt.mp hlt))

/-- Values under distinct names, in ascending order of the names. -/
structure Dict (α : Type) where
  /-- The names with their values. -/
  entries : List (Text × α)
  /-- The names ascend. -/
  ascending : entries.Pairwise (fun a b => a.1 < b.1)

namespace Dict

variable {α : Type}

/-- The dictionary without entries. -/
def empty : Dict α := ⟨[], List.Pairwise.nil⟩

/-- The value of the first entry with the given name. -/
def lookup (name : Text) : List (Text × α) → Option α
  | [] => none
  | (key, value) :: rest => if key = name then some value else lookup name rest

/-- Puts an entry at its place, instead of an entry with the same name if there is one. -/
def place (name : Text) (value : α) : List (Text × α) → List (Text × α)
  | [] => [(name, value)]
  | (key, old) :: rest =>
    if name < key then (name, value) :: (key, old) :: rest
    else if name = key then (name, value) :: rest
    else (key, old) :: place name value rest

theorem mem_place {name : Text} {value : α} {entries : List (Text × α)} {e : Text × α}
    (h : e ∈ place name value entries) : e = (name, value) ∨ e ∈ entries := by
  induction entries with
  | nil => simpa [place] using h
  | cons head rest ih =>
    obtain ⟨key, old⟩ := head
    simp only [place] at h
    split at h
    · simpa using h
    · split at h
      · rcases List.mem_cons.mp h with h | h
        · exact Or.inl h
        · exact Or.inr (List.mem_cons_of_mem _ h)
      · rcases List.mem_cons.mp h with h | h
        · exact Or.inr (h ▸ List.mem_cons_self)
        · rcases ih h with h | h
          · exact Or.inl h
          · exact Or.inr (List.mem_cons_of_mem _ h)

theorem pairwise_place {name : Text} {value : α} {entries : List (Text × α)}
    (h : entries.Pairwise (fun a b => a.1 < b.1)) :
    (place name value entries).Pairwise (fun a b => a.1 < b.1) := by
  induction entries with
  | nil => simp [place]
  | cons head rest ih =>
    obtain ⟨key, old⟩ := head
    obtain ⟨hhead, hrest⟩ := List.pairwise_cons.mp h
    simp only [place]
    split
    · rename_i hlt
      refine List.pairwise_cons.mpr ⟨?_, h⟩
      intro e he
      rcases List.mem_cons.mp he with rfl | he
      · exact hlt
      · exact List.lt_trans hlt (hhead e he)
    · rename_i hnlt
      split
      · rename_i heq
        subst heq
        exact List.pairwise_cons.mpr ⟨hhead, hrest⟩
      · rename_i hne
        refine List.pairwise_cons.mpr ⟨?_, ih hrest⟩
        intro e he
        rcases mem_place he with rfl | he
        · exact Text.lt_of_not_lt hnlt hne
        · exact hhead e he

/-- Sets the value of a name, in place of the one it had. -/
def insert (dict : Dict α) (name : Text) (value : α) : Dict α :=
  ⟨place name value dict.entries, pairwise_place dict.ascending⟩

/-- The dictionary of a list of entries, of which the last one for each name counts. -/
def ofList (entries : List (Text × α)) : Dict α :=
  entries.foldl (fun dict e => dict.insert e.1 e.2) empty

/-- The value of a name. -/
def get? (dict : Dict α) (name : Text) : Option α := lookup name dict.entries

/-- The name has a value. -/
def contains (dict : Dict α) (name : Text) : Bool := (dict.get? name).isSome

/-- The names that have a value, in ascending order. -/
def names (dict : Dict α) : List Text := dict.entries.map (·.1)

/-- The number of names that have a value. -/
def size (dict : Dict α) : Nat := dict.entries.length

/-- The same names with values that agree. -/
def agree (eq : α → α → Bool) (a b : Dict α) : Bool :=
  a.entries.isEqv b.entries fun x y => x.1 == y.1 && eq x.2 y.2

theorem ext {a b : Dict α} (h : a.entries = b.entries) : a = b := by
  cases a; cases b; simp_all

instance [DecidableEq α] : DecidableEq (Dict α) := fun a b =>
  decidable_of_iff (a.entries = b.entries) ⟨ext, fun h => h ▸ rfl⟩

@[simp] theorem get?_empty (name : Text) : (empty : Dict α).get? name = none := rfl

theorem lookup_place_self (name : Text) (value : α) (entries : List (Text × α)) :
    lookup name (place name value entries) = some value := by
  induction entries with
  | nil => simp [place, lookup]
  | cons head rest ih =>
    obtain ⟨key, old⟩ := head
    simp only [place]
    split
    · simp [lookup]
    · split
      · simp [lookup]
      · rename_i hne
        simp [lookup, Ne.symm hne, ih]

theorem lookup_place_of_ne {name other : Text} (hne : other ≠ name) (value : α)
    (entries : List (Text × α)) :
    lookup other (place name value entries) = lookup other entries := by
  induction entries with
  | nil => simp [place, lookup, Ne.symm hne]
  | cons head rest ih =>
    obtain ⟨key, old⟩ := head
    simp only [place]
    split
    · simp [lookup, Ne.symm hne]
    · split
      · rename_i heq
        subst heq
        simp [lookup, Ne.symm hne]
      · simp [lookup, ih]

/-- An insertion changes the value of its own name and no other. -/
theorem get?_insert (dict : Dict α) (name other : Text) (value : α) :
    (dict.insert name value).get? other = if other = name then some value else dict.get? other := by
  split
  · rename_i h
    subst h
    exact lookup_place_self _ _ _
  · rename_i h
    exact lookup_place_of_ne h _ _

theorem lookup_eq_none_of_lt {name : Text} {entries : List (Text × α)}
    (h : ∀ e ∈ entries, name < e.1) : lookup name entries = none := by
  induction entries with
  | nil => rfl
  | cons head rest ih =>
    have hne : head.1 ≠ name := fun heq =>
      List.lt_irrefl name (heq ▸ h head List.mem_cons_self)
    simp [lookup, hne, ih fun e he => h e (List.mem_cons_of_mem _ he)]

theorem entries_eq_of_lookup_eq : ∀ {a b : List (Text × α)},
    a.Pairwise (fun x y => x.1 < y.1) → b.Pairwise (fun x y => x.1 < y.1) →
    (∀ name, lookup name a = lookup name b) → a = b
  | [], [], _, _, _ => rfl
  | [], (key, value) :: b, _, _, h => by
    have := h key
    simp [lookup] at this
  | (key, value) :: a, [], _, _, h => by
    have := h key
    simp [lookup] at this
  | (k, v) :: a, (k', v') :: b, ha, hb, h => by
    obtain ⟨ha1, ha2⟩ := List.pairwise_cons.mp ha
    obtain ⟨hb1, hb2⟩ := List.pairwise_cons.mp hb
    have hk : k = k' := by
      by_cases hne : k = k'
      · exact hne
      exfalso
      by_cases hlt : k < k'
      · have h1 := h k
        rw [lookup_eq_none_of_lt (List.forall_mem_cons.mpr
          ⟨hlt, fun e he => List.lt_trans hlt (hb1 e he)⟩)] at h1
        simp [lookup] at h1
      · have hgt := Text.lt_of_not_lt hlt hne
        have h1 := h k'
        rw [lookup_eq_none_of_lt (List.forall_mem_cons.mpr
          ⟨hgt, fun e he => List.lt_trans hgt (ha1 e he)⟩)] at h1
        simp [lookup] at h1
    subst hk
    have hv : v = v' := by simpa [lookup] using h k
    subst hv
    refine congrArg _ (entries_eq_of_lookup_eq ha2 hb2 fun name => ?_)
    have hname := h name
    simp only [lookup] at hname
    split at hname
    · rename_i heq
      subst heq
      rw [lookup_eq_none_of_lt ha1, lookup_eq_none_of_lt hb1]
    · exact hname

/-- A dictionary is known by the values of its names. -/
theorem ext_get? {a b : Dict α} (h : ∀ name, a.get? name = b.get? name) : a = b :=
  ext (entries_eq_of_lookup_eq a.ascending b.ascending h)

theorem exists_lookup_eq_some_iff {name : Text} {entries : List (Text × α)} :
    (∃ value, lookup name entries = some value) ↔ name ∈ entries.map (·.1) := by
  induction entries with
  | nil => simp [lookup]
  | cons head rest ih =>
    by_cases h : head.1 = name
    · simp [lookup, h]
    · simp [lookup, h, ih, Ne.symm h]

/-- A name that has a value is one of the names. -/
theorem mem_names_iff {dict : Dict α} {name : Text} :
    name ∈ dict.names ↔ ∃ value, dict.get? name = some value :=
  exists_lookup_eq_some_iff.symm

theorem nodup_names (dict : Dict α) : dict.names.Nodup := by
  refine List.pairwise_map.mpr (dict.ascending.imp fun {a b} hlt heq => ?_)
  rw [heq] at hlt
  exact List.lt_irrefl _ hlt

/-! ### Lists of entries -/

/-- Among distinct names, what is found is what is there. -/
theorem lookup_eq_some_iff {entries : List (Text × α)} (hnodup : (entries.map (·.1)).Nodup)
    {name : Text} {value : α} : lookup name entries = some value ↔ (name, value) ∈ entries := by
  induction entries with
  | nil => simp [lookup]
  | cons entry rest ih =>
    obtain ⟨key, first⟩ := entry
    obtain ⟨hfresh, hrest⟩ := List.nodup_cons.mp hnodup
    by_cases h : key = name
    · subst h
      have hnotin : (key, value) ∉ rest := fun hmem => hfresh (List.mem_map.mpr ⟨_, hmem, rfl⟩)
      simp [lookup, hnotin, eq_comm]
    · simp [lookup, h, Ne.symm h, ih hrest]

theorem ofList_concat (entries : List (Text × α)) (last : Text × α) :
    ofList (entries ++ [last]) = (ofList entries).insert last.1 last.2 := by
  rw [ofList, List.foldl_append]
  rfl

theorem get?_ofList_reverse (entries : List (Text × α)) (name : Text) :
    (ofList entries.reverse).get? name = lookup name entries := by
  induction entries with
  | nil => rfl
  | cons last entries ih =>
    rw [List.reverse_cons, ofList_concat, get?_insert, ih]
    by_cases h : name = last.1
    · simp [lookup, h]
    · simp [lookup, h, Ne.symm h]

/-- The last entry of a name counts. -/
theorem get?_ofList (entries : List (Text × α)) (name : Text) :
    (ofList entries).get? name = lookup name entries.reverse := by
  have h := get?_ofList_reverse entries.reverse name
  rwa [List.reverse_reverse] at h

end Dict

end NamedSql
