import Mathlib.Data.Set.Defs
import NamedSql.Proofs.FloatingPoint
import NamedSql.Proofs.Histories

/-! # Equality is a partial equivalence

The comparison of values is symmetric and transitive, at any depth, but a value equals itself only if
no NaN occurs in it. So it is with everything that is compared value by value: stores and
dictionaries, whose values are compared under the same names, and arguments, whose values are
compared at the same positions. A store and a dictionary are compared alike, and arguments as a list
of their values is, so that `PartialEquivalence.comap` takes the one over to the other. -/

namespace NamedSql

/-- A comparison is symmetric and transitive, and a thing equals itself exactly if none of its
numbers is a NaN. -/
structure PartialEquivalence {α : Type} (equal : α → α → Bool) (numbers : α → Set Binary64) :
    Prop where
  symm : ∀ a b, equal a b = true → equal b a = true
  trans : ∀ a b c, equal a b = true → equal b c = true → equal a c = true
  self_iff : ∀ a, equal a a = true ↔ ∀ x ∈ numbers a, x.isNaN = false

theorem PartialEquivalence.comap {α β : Type} {equal : α → α → Bool}
    {numbers : α → Set Binary64} (h : PartialEquivalence equal numbers) (f : β → α) :
    PartialEquivalence (fun a b => equal (f a) (f b)) (fun a => numbers (f a)) where
  symm _ _ := h.symm _ _
  trans _ _ _ := h.trans _ _ _
  self_iff _ := h.self_iff _

namespace Value

/-- The numbers that occur in a value, at any depth. -/
def numbers (a : Value) : Set Binary64 := {x | Within (float x) a}

theorem partialEquivalence : PartialEquivalence equal numbers where
  symm _ _ := equal_symm
  trans _ _ _ := equal_trans
  self_iff _ := equal_self_iff

end Value

/-! ### Stores, dictionaries and arguments -/

namespace Store

/-- The numbers that occur in the values. -/
def numbers (store : Store) : Set Binary64 :=
  {x | ∃ name value, store.get? name = some value ∧ x ∈ value.numbers}

theorem partialEquivalence : PartialEquivalence equal numbers where
  symm a b h := by
    obtain ⟨hnames, hvalues⟩ := equal_iff.mp h
    exact equal_iff.mpr ⟨fun name => (hnames name).symm,
      fun name x y hx hy => Value.equal_symm (hvalues name y x hy hx)⟩
  trans a b c hab hbc := by
    obtain ⟨hab, hab'⟩ := equal_iff.mp hab
    obtain ⟨hbc, hbc'⟩ := equal_iff.mp hbc
    refine equal_iff.mpr ⟨fun name => (hab name).trans (hbc name), fun name x z hx hz => ?_⟩
    -- the value of the name in the store between
    obtain ⟨y, hy⟩ := mem_names_iff.mp ((hab name).mp (mem_names_iff.mpr ⟨x, hx⟩))
    exact Value.equal_trans (hab' name x y hx hy) (hbc' name y z hy hz)
  self_iff a := by
    constructor
    · rintro h x ⟨name, value, hvalue, hx⟩
      exact Value.equal_self_iff.mp ((equal_iff.mp h).2 name value value hvalue hvalue) x hx
    · intro h
      refine equal_iff.mpr ⟨fun _ => Iff.rfl, fun name x y hx hy => ?_⟩
      cases hx.symm.trans hy
      exact Value.equal_self_iff.mpr fun z hz => h z ⟨name, x, hx, hz⟩

end Store

namespace Bindings

/-- The numbers that occur in the values. -/
def numbers (bindings : Bindings) : Set Binary64 :=
  {x | ∃ name value, bindings.get? name = some value ∧ x ∈ value.numbers}

theorem partialEquivalence : PartialEquivalence equal numbers := by
  have h := Store.partialEquivalence.comap Store.ofBindings
  simp only [Store.equal_ofBindings] at h
  exact h

end Bindings

namespace Arguments

/-- The numbers that occur in the values. -/
def numbers (arguments : Arguments) : Set Binary64 :=
  {x | ∃ value ∈ arguments.values, x ∈ value.numbers}

theorem partialEquivalence : PartialEquivalence equal numbers := by
  have h := Value.partialEquivalence.comap fun arguments : Arguments => .list arguments.values
  have hnumbers : ∀ arguments : Arguments,
      (Value.list arguments.values).numbers = arguments.numbers :=
    fun arguments => Set.ext fun x => Value.within_list_iff rfl
  simp only [hnumbers] at h
  exact h

end Arguments

/-! ### The comparison of values -/

namespace Value

/-- **Equality is a partial equivalence** of values of any depth, in which only those with a NaN do
not equal themselves. Values are equal exactly if they have the same shape with the same entries, up
to the signs of zeros, and no NaN occurs in them. Two numbers are equal if the doubles with their
bits are, and a NaN is one that is none as a double. Stores, dictionaries and arguments are compared
in the same way. -/
theorem equal_partialEquivalence :
    PartialEquivalence equal numbers ∧
    (∀ a b : Value, a.equal b = true ↔
      Alike Binary64.Agree a b ∧ ∀ x ∈ a.numbers, x.isNaN = false) ∧
    (∀ x y : Binary64,
      (float x).equal (float y) = (Float.ofBits x.bits == Float.ofBits y.bits)) ∧
    (∀ x : Binary64, x.isNaN = (Float.ofBits x.bits).isNaN) ∧
    PartialEquivalence Store.equal Store.numbers ∧
    PartialEquivalence Bindings.equal Bindings.numbers ∧
    PartialEquivalence Arguments.equal Arguments.numbers :=
  ⟨partialEquivalence, fun _ _ => equal_iff, Binary64.equal_eq_beq, Binary64.isNaN_eq,
    Store.partialEquivalence, Bindings.partialEquivalence, Arguments.partialEquivalence⟩

/-- Lists in lists, with zeros of either sign and with a NaN. -/
theorem equal_partialEquivalence_zeros :
    let zero : Binary64 := ⟨0⟩
    let negative : Binary64 := ⟨0x8000000000000000⟩
    let nan : Binary64 := ⟨0x7FF8000000000001⟩
    let a := list [float zero, list [text ['x'], float negative]]
    let b := list [float negative, list [text ['x'], float zero]]
    let c := list [float negative, list [text ['x'], float negative]]
    a.equal b = true ∧ b.equal c = true ∧ a.equal c = true ∧ c.equal a = true ∧ a ≠ b ∧
      Alike Binary64.Agree a c ∧ (Float.ofBits zero.bits == Float.ofBits negative.bits) = true ∧
      (list [null, list [float nan]]).equal (list [null, list [float nan]]) = false := by
  intro zero negative nan a b c
  obtain ⟨⟨hsymm, htrans, hself⟩, hiff, hfloat, -⟩ := equal_partialEquivalence
  have hab : a.equal b = true := by decide +kernel
  have hbc : b.equal c = true := by decide +kernel
  have hac : a.equal c = true := htrans a b c hab hbc
  refine ⟨hab, hbc, hac, hsymm a c hac, fun h => ?_, ((hiff a c).mp hac).1, ?_, ?_⟩
  · injection h with hitems
    injection hitems with hfirst
    injection hfirst with hzeros
    exact absurd hzeros (by decide)
  · rw [← hfloat zero negative]
    decide +kernel
  · refine Bool.eq_false_iff.mpr fun h => ?_
    have hnan : nan.isNaN = false := (hself _).mp h nan
      (.item (.tail _ (.head _)) (.item (.head _) .self))
    revert hnan
    decide

end Value

end NamedSql
