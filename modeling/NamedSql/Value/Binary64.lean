/-! # Floating-point numbers by their bits

Double and single precision numbers are kept as their bits, so that a value goes to the database bit
for bit. They compare as IEEE 754 says: a NaN equals nothing, and the two zeros are equal. Widening
a single to a double is exact; a NaN keeps its sign and payload and becomes quiet. -/

namespace NamedSql

/-- A double precision number. -/
structure Binary64 where
  /-- Sign, eleven bits of exponent, fifty-two bits of fraction. -/
  bits : UInt64
  deriving DecidableEq

namespace Binary64

/-- The bits without the sign. -/
def magnitude (x : Binary64) : Nat := x.bits.toNat % 0x8000000000000000

/-- The number is no number: the exponent is all ones and the fraction not zero. -/
def isNaN (x : Binary64) : Bool := decide (0x7FF0000000000000 < x.magnitude)

/-- The number is one of the two zeros. -/
def isZero (x : Binary64) : Bool := x.magnitude == 0

/-- Equality of numbers. -/
def equal (x y : Binary64) : Bool :=
  !x.isNaN && !y.isNaN && (x == y || x.isZero && y.isZero)

end Binary64

/-- A single precision number. -/
structure Binary32 where
  /-- Sign, eight bits of exponent, twenty-three bits of fraction. -/
  bits : UInt32
  deriving DecidableEq

namespace Binary32

/-- The double precision magnitude of a single precision exponent and fraction. -/
def widenMagnitude (exponent fraction : Nat) : Nat :=
  if exponent = 255 then
    0x7FF <<< 52 + if fraction = 0 then 0 else (fraction % 0x400000) <<< 29 + 1 <<< 51
  else if exponent ≠ 0 then (exponent + 896) <<< 52 + fraction <<< 29
  else if fraction = 0 then 0
  else
    let top := fraction.log2
    (top + 874) <<< 52 + (fraction - 1 <<< top) <<< (52 - top)

/-- The same number in double precision. -/
def widen (x : Binary32) : Binary64 :=
  let sign := x.bits.toNat >>> 31
  let exponent := x.bits.toNat >>> 23 % 0x100
  let fraction := x.bits.toNat % 0x800000
  ⟨UInt64.ofNat (sign <<< 63 + widenMagnitude exponent fraction)⟩

end Binary32

end NamedSql
