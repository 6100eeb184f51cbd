import Mathlib.Data.List.Forall2
import NamedSql.Value.Basic

/-! # Values that equal themselves, and values that equal others

A NaN equals nothing, and so does a value that holds one at any depth. All others equal themselves
(`equal_self`).

Two values are `Alike` if they have the same shape with the same entries, except for the numbers, of
which those at one place are in a given relation. Equal values are the ones that are alike with
equal numbers (`equal_iff_alike`), so what is true of the comparison of numbers carries over to
values of any depth: `Alike` is symmetric or transitive if the relation is (`Alike.symm`,
`Alike.trans`), and a value is alike to itself if each number within it is related to itself
(`alike_self_iff`). -/

namespace NamedSql

namespace Binary64

variable {x y z : Binary64}

theorem equal_self (x : Binary64) : x.equal x = !x.isNaN := by
  simp [equal]

/-- The bits are the same, but the sign of a zero may differ. -/
def Agree (x y : Binary64) : Prop := x = y ∨ x.isZero = true ∧ y.isZero = true

theorem Agree.symm (h : x.Agree y) : y.Agree x := h.imp Eq.symm And.symm

theorem Agree.trans (h : x.Agree y) (h' : y.Agree z) : x.Agree z := by
  rcases h with rfl | ⟨hx, hy⟩
  · exact h'
  · rcases h' with rfl | ⟨-, hz⟩
    · exact .inr ⟨hx, hy⟩
    · exact .inr ⟨hx, hz⟩

theorem isNaN_of_isZero (h : x.isZero = true) : x.isNaN = false := by
  rw [isZero, beq_iff_eq] at h
  simp [isNaN, h]

theorem Agree.isNaN_eq (h : x.Agree y) : x.isNaN = y.isNaN := by
  rcases h with rfl | ⟨hx, hy⟩
  · rfl
  · rw [isNaN_of_isZero hx, isNaN_of_isZero hy]

theorem equal_iff_agree :
    x.equal y = true ↔ x.isNaN = false ∧ y.isNaN = false ∧ x.Agree y := by
  simp [equal, Agree, and_assoc]

/-- Numbers are equal if they agree and the one is not a NaN. -/
theorem equal_iff : x.equal y = true ↔ x.isNaN = false ∧ x.Agree y := by
  rw [equal_iff_agree]
  exact and_congr_right fun hx => and_iff_right_of_imp fun hagree => hagree.isNaN_eq ▸ hx

theorem equal_symm (h : x.equal y = true) : y.equal x = true := by
  rw [equal_iff] at h ⊢
  exact ⟨h.2.isNaN_eq ▸ h.1, h.2.symm⟩

theorem equal_trans (h : x.equal y = true) (h' : y.equal z = true) : x.equal z = true := by
  rw [equal_iff] at h h' ⊢
  exact ⟨h.1, h.2.trans h'.2⟩

end Binary64

namespace Value

mutual

/-- The value is a NaN, or one of its elements holds one. -/
def holdsNaN : Value → Bool
  | float x => x.isNaN
  | list items => itemsHoldNaN items
  | _ => false

/-- One of the values holds a NaN. -/
def itemsHoldNaN : List Value → Bool
  | [] => false
  | item :: items => holdsNaN item || itemsHoldNaN items

end

mutual

/-- **A value equals itself** unless it holds a NaN. -/
theorem equal_self (value : Value) : value.equal value = !value.holdsNaN := by
  cases value with
  | null => rfl
  | bool b => simp [equal, holdsNaN]
  | int n => simp [equal, holdsNaN]
  | uint n => simp [equal, holdsNaN]
  | float x => exact x.equal_self
  | text t => simp [equal, holdsNaN]
  | bytes b => simp [equal, holdsNaN]
  | list items => exact equalItems_self items

theorem equalItems_self (items : List Value) : equalItems items items = !itemsHoldNaN items := by
  cases items with
  | nil => rfl
  | cons item items =>
    rw [equalItems, itemsHoldNaN, equal_self item, equalItems_self items, Bool.not_or]

end

/-! ### Values that are alike -/

/-- A value occurs in another one, at some depth. -/
inductive Within (part : Value) : Value → Prop
  /-- It is the value itself. -/
  | self : Within part part
  /-- It occurs in an element. -/
  | item {items : List Value} {item : Value} (hmem : item ∈ items) (h : Within part item) :
      Within part (list items)

/-- The values have the same shape and are the same but for numbers, and the numbers at each place
are related. -/
inductive Alike (R : Binary64 → Binary64 → Prop) : Value → Value → Prop
  | null : Alike R null null
  | bool (b : Bool) : Alike R (bool b) (bool b)
  | int (n : Int64) : Alike R (int n) (int n)
  | uint (n : UInt64) : Alike R (uint n) (uint n)
  | float {x y : Binary64} (h : R x y) : Alike R (float x) (float y)
  | text (t : Text) : Alike R (text t) (text t)
  | bytes (b : List UInt8) : Alike R (bytes b) (bytes b)
  | list {as bs : List Value} (h : List.Forall₂ (Alike R) as bs) : Alike R (list as) (list bs)

variable {R S : Binary64 → Binary64 → Prop} {part : Value} {items : List Value}

theorem within_list_iff (hpart : part.isList = false) :
    Within part (list items) ↔ ∃ item ∈ items, Within part item := by
  constructor
  · rintro (_ | ⟨hmem, h⟩)
    · cases hpart
    · exact ⟨_, hmem, h⟩
  · rintro ⟨item, hmem, h⟩
    exact h.item hmem

mutual

theorem Alike.symm (hR : ∀ x y, R x y → R y x) : ∀ {a b : Value}, Alike R a b → Alike R b a
  | _, _, .null => .null
  | _, _, .bool b => .bool b
  | _, _, .int n => .int n
  | _, _, .uint n => .uint n
  | _, _, .float h => .float (hR _ _ h)
  | _, _, .text t => .text t
  | _, _, .bytes b => .bytes b
  | _, _, .list h => .list (alikeItems_symm hR h)

theorem alikeItems_symm (hR : ∀ x y, R x y → R y x) : ∀ {as bs : List Value},
    List.Forall₂ (Alike R) as bs → List.Forall₂ (Alike R) bs as
  | _, _, .nil => .nil
  | _, _, .cons h hs => .cons (h.symm hR) (alikeItems_symm hR hs)

end

mutual

theorem Alike.trans (hR : ∀ x y z, R x y → R y z → R x z) : ∀ {a b c : Value},
    Alike R a b → Alike R b c → Alike R a c
  | _, _, _, .null, .null => .null
  | _, _, _, .bool b, .bool _ => .bool b
  | _, _, _, .int n, .int _ => .int n
  | _, _, _, .uint n, .uint _ => .uint n
  | _, _, _, .float h, .float h' => .float (hR _ _ _ h h')
  | _, _, _, .text t, .text _ => .text t
  | _, _, _, .bytes b, .bytes _ => .bytes b
  | _, _, _, .list h, .list h' => .list (alikeItems_trans hR h h')

theorem alikeItems_trans (hR : ∀ x y z, R x y → R y z → R x z) : ∀ {as bs cs : List Value},
    List.Forall₂ (Alike R) as bs → List.Forall₂ (Alike R) bs cs → List.Forall₂ (Alike R) as cs
  | _, _, _, .nil, .nil => .nil
  | _, _, _, .cons h hs, .cons h' hs' => .cons (h.trans hR h') (alikeItems_trans hR hs hs')

end

mutual

/-- Only the numbers that occur matter. -/
theorem Alike.imp : ∀ {a b : Value}, (∀ x y, Within (float x) a → R x y → S x y) →
    Alike R a b → Alike S a b
  | _, _, _, .null => .null
  | _, _, _, .bool b => .bool b
  | _, _, _, .int n => .int n
  | _, _, _, .uint n => .uint n
  | _, _, hRS, .float h => .float (hRS _ _ .self h)
  | _, _, _, .text t => .text t
  | _, _, _, .bytes b => .bytes b
  | _, _, hRS, .list h =>
    .list (alikeItems_imp (fun _ hmem x y hx => hRS x y (hx.item hmem)) h)

theorem alikeItems_imp : ∀ {as bs : List Value},
    (∀ a ∈ as, ∀ x y, Within (float x) a → R x y → S x y) →
    List.Forall₂ (Alike R) as bs → List.Forall₂ (Alike S) as bs
  | _, _, _, .nil => .nil
  | _, _, hRS, .cons h hs => .cons (h.imp (hRS _ List.mem_cons_self))
    (alikeItems_imp (fun a hmem => hRS a (List.mem_cons_of_mem _ hmem)) hs)

end

mutual

theorem alike_self : ∀ {a : Value}, (∀ x, Within (float x) a → R x x) → Alike R a a
  | null, _ => .null
  | bool b, _ => .bool b
  | int n, _ => .int n
  | uint n, _ => .uint n
  | float x, h => .float (h x .self)
  | text t, _ => .text t
  | bytes b, _ => .bytes b
  | list _, h => .list (alikeItems_self fun _ hmem x hx => h x (hx.item hmem))

theorem alikeItems_self : ∀ {as : List Value}, (∀ a ∈ as, ∀ x, Within (float x) a → R x x) →
    List.Forall₂ (Alike R) as as
  | [], _ => .nil
  | _ :: _, h => .cons (alike_self (h _ List.mem_cons_self))
    (alikeItems_self fun a hmem => h a (List.mem_cons_of_mem _ hmem))

end

/-- **A value is alike to itself** if each number within it is related to itself. -/
theorem alike_self_iff {a : Value} : Alike R a a ↔ ∀ x, Within (float x) a → R x x := by
  refine ⟨fun h x hx => ?_, alike_self⟩
  induction hx with
  | self =>
    cases h with
    | float h => exact h
  | item hmem _ ih =>
    cases h with
    | list h => exact ih (List.forall₂_same.mp h _ hmem)

/-! ### Values that are equal -/

mutual

theorem alike_of_equal {a b : Value} (h : a.equal b = true) : Alike (·.equal ·) a b := by
  fun_cases equal a b with
  | case1 => exact .null
  | case2 a b | case3 a b | case4 a b | case6 a b | case7 a b =>
    rw [equal, beq_iff_eq] at h
    rw [h]
    constructor
  | case5 x y => exact .float h
  | case8 as bs =>
    rw [equal] at h
    exact .list (alikeItems_of_equalItems h)
  | case9 =>
    rw [equal] at h <;> trivial

theorem alikeItems_of_equalItems {as bs : List Value} (h : equalItems as bs = true) :
    List.Forall₂ (Alike (·.equal ·)) as bs := by
  fun_cases equalItems as bs with
  | case1 => exact .nil
  | case2 a as b bs =>
    rw [equalItems, Bool.and_eq_true] at h
    exact .cons (alike_of_equal h.1) (alikeItems_of_equalItems h.2)
  | case3 =>
    rw [equalItems] at h <;> trivial

end

mutual

theorem Alike.equal : ∀ {a b : Value}, Alike (·.equal ·) a b → a.equal b = true
  | _, _, .null => rfl
  | _, _, .bool _ | _, _, .int _ | _, _, .uint _ | _, _, .text _ | _, _, .bytes _ => by
    rw [Value.equal, beq_self_eq_true]
  | _, _, .float h => h
  | _, _, .list h => equalItems_of_alikeItems h

theorem equalItems_of_alikeItems : ∀ {as bs : List Value},
    List.Forall₂ (Alike (·.equal ·)) as bs → equalItems as bs = true
  | _, _, .nil => rfl
  | _, _, .cons h hs => by
    rw [equalItems, h.equal, equalItems_of_alikeItems hs]
    rfl

end

/-- **Equal values** are alike with equal numbers. -/
theorem equal_iff_alike {a b : Value} : a.equal b = true ↔ Alike (·.equal ·) a b :=
  ⟨alike_of_equal, Alike.equal⟩

/-- A value equals itself exactly if no NaN occurs in it. -/
theorem equal_self_iff {a : Value} :
    a.equal a = true ↔ ∀ x, Within (float x) a → x.isNaN = false :=
  calc a.equal a = true ↔ Alike (·.equal ·) a a := equal_iff_alike
    _ ↔ ∀ x, Within (float x) a → x.equal x = true := alike_self_iff
    _ ↔ ∀ x, Within (float x) a → x.isNaN = false := by
      simp only [Binary64.equal_self, Bool.not_eq_true']

/-- What `holdsNaN` looks for at any depth is a NaN that occurs in the value. -/
theorem holdsNaN_eq_false_iff {a : Value} :
    a.holdsNaN = false ↔ ∀ x, Within (float x) a → x.isNaN = false := by
  rw [← equal_self_iff, equal_self, Bool.not_eq_true']

theorem equal_symm {a b : Value} (h : a.equal b = true) : b.equal a = true := by
  rw [equal_iff_alike] at h ⊢
  refine h.symm fun _ _ => ?_
  exact Binary64.equal_symm

theorem equal_trans {a b c : Value} (h : a.equal b = true) (h' : b.equal c = true) :
    a.equal c = true := by
  rw [equal_iff_alike] at h h' ⊢
  refine h.trans (fun _ _ _ => ?_) h'
  exact Binary64.equal_trans

/-- **Values are equal** if they have the same shape and the same entries, up to the signs of zeros,
and no NaN occurs in them. -/
theorem equal_iff {a b : Value} : a.equal b = true ↔
    Alike Binary64.Agree a b ∧ ∀ x, Within (float x) a → x.isNaN = false := by
  constructor
  · intro h
    -- by symmetry and transitivity a value that equals anything equals itself
    have hself : a.equal a = true := equal_trans h (equal_symm h)
    refine ⟨(equal_iff_alike.mp h).imp fun x y _ hxy => ?_, equal_self_iff.mp hself⟩
    exact (Binary64.equal_iff.mp hxy).2
  · rintro ⟨halike, hnumbers⟩
    exact equal_iff_alike.mpr
      (halike.imp fun x y hx hxy => Binary64.equal_iff.mpr ⟨hnumbers x hx, hxy⟩)

end Value

end NamedSql
