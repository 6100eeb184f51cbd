import Mathlib
import NamedSql.Proofs.ValueEquality

/-! # The comparison of doubles

Numbers are compared by the bits of their magnitudes. The standard defines the comparison by what
the bits stand for: an infinity, a zero, a number with a sign, a significand and an exponent, or no
number at all. The core library has doubles with that comparison, and for the bits of two doubles
both say the same (`equal_eq_beq`).

Unless they stand for no number, the bits can be packed again from what they stand for
(`pack_datum`), so that two numbers with other bits are other numbers, except for the two zeros. -/

namespace NamedSql

namespace Binary64

open Float.Model Float.Model.UnpackedFloat

/-- The eleven bits of the exponent. -/
def exponent (x : Binary64) : BitVec 11 := @unpackExponent .binary64 x.bits.toBitVec

/-- The fifty-two bits of the fraction. -/
def fraction (x : Binary64) : BitVec 52 := @unpackMantissa .binary64 x.bits.toBitVec

/-- The sign. -/
def sign (x : Binary64) : Sign := .ofBitVec (@unpackSign .binary64 x.bits.toBitVec)

/-- What the bits stand for. -/
def datum (x : Binary64) : UnpackedFloat := UnpackedFloat.unpack .binary64 x.bits.toBitVec

variable {x y : Binary64}

/-! ### The fields -/

theorem packComponents_fields (x : Binary64) :
    packComponents .binary64 x.sign x.exponent x.fraction = x.bits.toBitVec := by
  have hsign (v : BitVec 1) : (Sign.ofBitVec v).toBitVec = v := by revert v; decide
  simp only [packComponents, sign, hsign, unpackSign, exponent, unpackExponent, fraction,
    unpackMantissa, BitVec.extractLsb]
  ext i hi
  grind

theorem magnitude_eq (x : Binary64) :
    x.magnitude = x.exponent.toNat * 2 ^ 52 + x.fraction.toNat := by
  simp only [magnitude, exponent, unpackExponent, fraction, unpackMantissa, BitVec.toNat_cast,
    BitVec.extractLsb_toNat, Nat.shiftRight_eq_div_pow, UInt64.toNat_toBitVec]
  omega

theorem isNaN_iff_fields : x.isNaN = true ↔ x.exponent = 2047#11 ∧ x.fraction ≠ 0#52 := by
  have hmagnitude := x.magnitude_eq
  have hexponent := x.exponent.isLt
  have hfraction := x.fraction.isLt
  rw [isNaN, decide_eq_true_iff, Ne, ← BitVec.toNat_inj, ← BitVec.toNat_inj]
  simp only [BitVec.toNat_ofNat]
  omega

theorem isZero_iff_fields : x.isZero = true ↔ x.exponent = 0#11 ∧ x.fraction = 0#52 := by
  have hmagnitude := x.magnitude_eq
  rw [isZero, beq_iff_eq, ← BitVec.toNat_inj, ← BitVec.toNat_inj]
  simp only [BitVec.toNat_ofNat]
  omega

/-! ### What the bits stand for -/

/-- The significand of a normal number has a leading one that is not among the bits. -/
theorem toNat_one_append (f : BitVec 52) : (1#1 ++ f).toNat = 2 ^ 52 + f.toNat := by
  rw [BitVec.toNat_append, ← Nat.shiftLeft_add_eq_or_of_lt f.isLt]
  rfl

/-- The exponent counts from 1023 down to the fifty-two bits of the fraction, so 1075 is taken from
it; below the normal numbers it stays that of the least of them. -/
theorem datum_eq (x : Binary64) : x.datum =
    if x.exponent = 2047#11 then
      if x.fraction = 0#52 then .infinity x.sign else .notANumber
    else if x.exponent = 0#11 then
      if h : x.fraction = 0#52 then .zero x.sign
      else .finite x.sign x.fraction.toNat (x.exponent.toNat - 1075 + 1)
        (Nat.pos_of_ne_zero fun h' => h (BitVec.toNat_inj.mp h'))
    else .finite x.sign (1#1 ++ x.fraction).toNat (x.exponent.toNat - 1075)
      (by rw [toNat_one_append]; omega) :=
  rfl

theorem datum_eq_notANumber_iff : x.datum = .notANumber ↔ x.isNaN = true := by
  rw [isNaN_iff_fields, datum_eq]
  split_ifs <;> simp [*]

theorem exists_datum_eq_zero_iff : (∃ s, x.datum = .zero s) ↔ x.isZero = true := by
  rw [isZero_iff_fields, datum_eq]
  split_ifs <;> simp [*]

/-! ### Packing again -/

theorem pack_subnormal (s : Sign) (f : BitVec 52) (hf : 0 < f.toNat) :
    UnpackedFloat.pack .binary64 (.finite s f.toNat (-1074) hf) =
      packComponents .binary64 s 0#11 f := by
  -- without the leading one the significand is too short for a normal number
  have hlog : f.toNat.log2 < 52 := (Nat.log2_lt hf.ne').mpr f.isLt
  have hshort : ¬f.toNat.log2 + 1 = 53 := by omega
  rw [UnpackedFloat.pack]
  refine (if_neg (by decide)).trans ((if_neg hshort).trans ?_)
  rw [BitVec.ofNat_toNat, BitVec.setWidth_eq]

theorem pack_normal (s : Sign) (e : BitVec 11) (f : BitVec 52) (he : e ≠ 2047#11)
    (hf : 0 < (1#1 ++ f).toNat) :
    UnpackedFloat.pack .binary64 (.finite s (1#1 ++ f).toNat (e.toNat - 1075) hf) =
      packComponents .binary64 s e f := by
  have hone := toNat_one_append f
  have hlt := f.isLt
  have hlog : (1#1 ++ f).toNat.log2 + 1 = 53 := by
    rw [Nat.add_right_cancel_iff, Nat.log2_eq_iff hf.ne']
    omega
  have hbiased : ((e.toNat : Int) - 1075 + Format.binary64.exponentBias + (52 : Nat)).toNat =
      e.toNat := by
    have hbias : (Format.binary64.exponentBias : Int) = 1023 := rfl
    omega
  have hbelow : ¬2 ^ 11 ≤ e.toNat + 1 := by
    have hlt := e.isLt
    have hne : e.toNat ≠ 2047 := fun h => he (BitVec.toNat_inj.mp h)
    omega
  rw [UnpackedFloat.pack]
  simp only [hbiased]
  refine (if_neg hbelow).trans ((if_pos hlog).trans ?_)
  congr 1
  · rw [BitVec.ofNat_toNat, BitVec.setWidth_eq]
  · apply BitVec.eq_of_toNat_eq
    rw [BitVec.toNat_ofNat, hone]
    omega

/-- What stands for a number is packed to its bits. -/
theorem pack_datum (hx : x.isNaN = false) :
    UnpackedFloat.pack .binary64 x.datum = x.bits.toBitVec := by
  have hfields := x.packComponents_fields
  rw [Bool.eq_false_iff, Ne, isNaN_iff_fields] at hx
  rw [datum_eq]
  split_ifs with htop hinf hsub hzero
  · rw [htop, hinf] at hfields
    exact hfields
  · exact absurd ⟨htop, hinf⟩ hx
  · rw [hsub, hzero] at hfields
    exact hfields
  · rw [hsub] at hfields ⊢
    exact (pack_subnormal _ _ _).trans hfields
  · exact (pack_normal _ _ _ htop _).trans hfields

theorem datum_inj (hx : x.isNaN = false) (hy : y.isNaN = false) : x.datum = y.datum ↔ x = y := by
  refine ⟨fun h => ?_, congrArg datum⟩
  have hbits := congrArg (UnpackedFloat.pack .binary64) h
  rw [pack_datum hx, pack_datum hy, UInt64.toBitVec_inj] at hbits
  cases x
  cases y
  exact congrArg mk hbits

/-- All bits that are no number stand for the same, so this holds of them, too. -/
theorem unpack_pack_datum (x : Binary64) :
    UnpackedFloat.unpack .binary64 (UnpackedFloat.pack .binary64 x.datum) = x.datum := by
  cases hx : x.isNaN with
  | true =>
    rw [datum_eq_notANumber_iff.mpr hx]
    rfl
  | false =>
    rw [pack_datum hx]
    rfl

/-! ### The comparison -/

theorem compare_sign_eq_iff {s t : Sign} : compare s t = .eq ↔ s = t := by
  cases s <;> cases t <;> simp [compare]

/-- What the core library takes for equal. -/
theorem beq_iff {u v : UnpackedFloat} : u.beq v = true ↔ u ≠ .notANumber ∧ v ≠ .notANumber ∧
    (u = v ∨ (∃ s, u = .zero s) ∧ ∃ s, v = .zero s) := by
  rw [UnpackedFloat.beq]
  fun_cases UnpackedFloat.compare u v <;>
    grind [compare_sign_eq_iff, Ordering.then_eq_eq, compare_eq_iff_eq, Ordering.swap_eq_eq]

theorem equal_eq_beq_datum (x y : Binary64) : x.equal y = x.datum.beq y.datum := by
  rw [Bool.eq_iff_iff, equal_iff_agree, beq_iff, Ne, Ne, datum_eq_notANumber_iff,
    datum_eq_notANumber_iff, Bool.not_eq_true, Bool.not_eq_true, exists_datum_eq_zero_iff,
    exists_datum_eq_zero_iff]
  refine and_congr_right fun hx => and_congr_right fun hy => ?_
  rw [datum_inj hx hy, Agree]

/-- **Numbers are equal** if the doubles with their bits are. -/
theorem equal_eq_beq (x y : Binary64) :
    x.equal y = (Float.ofBits x.bits == Float.ofBits y.bits) :=
  -- a double is made by unpacking the bits and packing them, and unpacked for the comparison
  calc x.equal y = x.datum.beq y.datum := equal_eq_beq_datum x y
    _ = (UnpackedFloat.unpack .binary64 (UnpackedFloat.pack .binary64 x.datum)).beq
          (UnpackedFloat.unpack .binary64 (UnpackedFloat.pack .binary64 y.datum)) := by
      rw [unpack_pack_datum, unpack_pack_datum]

theorem isNaN_eq (x : Binary64) : x.isNaN = (Float.ofBits x.bits).isNaN :=
  calc x.isNaN = x.datum.isNaN := by
        rw [Bool.eq_iff_iff, ← datum_eq_notANumber_iff]
        cases x.datum <;> simp [UnpackedFloat.isNaN]
    _ = (UnpackedFloat.unpack .binary64 (UnpackedFloat.pack .binary64 x.datum)).isNaN := by
      rw [unpack_pack_datum]

end Binary64

end NamedSql
