/-!
# Binary floating point in sixty-four bits

A floating-point number is its bit pattern, and everything about it is computed from that pattern
with whole numbers.  Nothing here rounds except `nearest`, which does it in one place, exactly.

* `Binary64` — the bit pattern.
* `Binary64.scaled` — a finite number as `m · 2 ^ q`.
* `Binary64.nearest` — the number nearest to a fraction, ties to the even significand.
* `Binary64.same` — equality of numbers, under which a NaN differs from itself.
-/

namespace Transactional

/-- A binary floating-point number, by its sixty-four bits: the sign, eleven bits of exponent, and
fifty-two of fraction. -/
structure Binary64 where
  bits : UInt64
deriving DecidableEq

namespace Binary64

/-! ## The fields of the pattern -/

/-- Whether the sign bit is set. -/
def isNegative (x : Binary64) : Bool :=
  x.bits.toNat / Nat.pow 2 63 = 1

/-- The eleven exponent bits. -/
def exponentField (x : Binary64) : Nat :=
  x.bits.toNat / Nat.pow 2 52 % Nat.pow 2 11

/-- The fifty-two fraction bits. -/
def fractionField (x : Binary64) : Nat :=
  x.bits.toNat % Nat.pow 2 52

/-- All exponent bits set and a fraction: no number. -/
def isNaN (x : Binary64) : Bool :=
  x.exponentField = 2047 && x.fractionField ≠ 0

/-- Neither infinite nor a NaN. -/
def isFinite (x : Binary64) : Bool :=
  x.exponentField ≠ 2047

/-- Zero of either sign. -/
def isZero (x : Binary64) : Bool :=
  x.exponentField = 0 && x.fractionField = 0

/-- A finite number's magnitude as `m · 2 ^ q`, where `q` is as small as the format allows.  For an
infinity or a NaN the pair means nothing. -/
def scaled (x : Binary64) : Nat × Int :=
  if x.exponentField = 0 then (x.fractionField, -1074)
  else (x.fractionField + Nat.pow 2 52, (x.exponentField : Int) - 1075)

/-! ## Building numbers -/

/-- The number of that sign whose remaining bits are `magnitude`. -/
def ofFields (negative : Bool) (magnitude : Nat) : Binary64 :=
  ⟨UInt64.ofNat ((if negative then Nat.pow 2 63 else 0) + magnitude)⟩

/-- Zero of either sign. -/
def zero (negative : Bool) : Binary64 :=
  ofFields negative 0

/-- Infinity of either sign. -/
def infinity (negative : Bool) : Binary64 :=
  ofFields negative (2047 * Nat.pow 2 52)

/-- The NaN that stands for all of them. -/
def nan : Binary64 :=
  ofFields false (2047 * Nat.pow 2 52 + Nat.pow 2 51)

/-- The same magnitude with the sign flipped. -/
def negate (x : Binary64) : Binary64 :=
  ⟨x.bits ^^^ 0x8000000000000000⟩

/-- A quotient rounded to a whole number, a half to the even neighbour. -/
def divideToEven (num den : Nat) : Nat :=
  let whole := num / den
  let twice := 2 * (num % den)
  if twice > den ∨ (twice = den ∧ whole % 2 = 1) then whole + 1 else whole

/-- The exponent of the greatest power of two that is not above the fraction `num / den`. -/
def binaryLogarithm (num den : Nat) : Int :=
  let guess : Int := (Nat.log2 num : Int) - (Nat.log2 den : Int)
  let (n, d) :=
    if guess < 0 then (num * Nat.pow 2 (-guess).toNat, den) else (num, den * Nat.pow 2 guess.toNat)
  if n < d then guess - 1 else guess

/-- **The number nearest to the fraction `num / den`**, ties to the even significand, infinity from
where the format ends.  The exponent is chosen first, so that the significand is rounded once. -/
def nearest (negative : Bool) (num den : Nat) : Binary64 :=
  if num = 0 then zero negative
  else
    let q := max (binaryLogarithm num den - 52) (-1074)
    let m :=
      if q < 0 then divideToEven (num * Nat.pow 2 (-q).toNat) den
      else divideToEven num (den * Nat.pow 2 q.toNat)
    let magnitude := (q + 1074).toNat * Nat.pow 2 52 + m
    if magnitude < 2047 * Nat.pow 2 52 then ofFields negative magnitude else infinity negative

/-- The number nearest to an integer. -/
def ofInt (i : Int) : Binary64 :=
  nearest (i < 0) i.natAbs 1

/-- The magnitude of a finite number as a fraction. -/
def fraction (x : Binary64) : Nat × Nat :=
  let (m, q) := x.scaled
  if q < 0 then (m, Nat.pow 2 (-q).toNat) else (m * Nat.pow 2 q.toNat, 1)

/-- The product of two finite numbers. -/
def times (x y : Binary64) : Binary64 :=
  nearest (x.isNegative != y.isNegative) (x.fraction.1 * y.fraction.1) (x.fraction.2 * y.fraction.2)

/-- The quotient of two finite numbers, the second one not zero. -/
def quotient (x y : Binary64) : Binary64 :=
  nearest (x.isNegative != y.isNegative) (x.fraction.1 * y.fraction.2) (x.fraction.2 * y.fraction.1)

/-! ## Comparing numbers -/

/-- **Equality of numbers**: the two zeros are equal, and a NaN is equal to nothing. -/
def same (x y : Binary64) : Bool :=
  !x.isNaN && !y.isNaN && (x.bits == y.bits || (x.isZero && y.isZero))

/-- The integer that a finite number is exactly, if it is one. -/
def toInt? (x : Binary64) : Option Int :=
  if x.isFinite then
    let (num, den) := x.fraction
    if num % den = 0 then
      let n : Int := Int.ofNat (num / den)
      some (if x.isNegative then -n else n)
    else none
  else none

end Binary64

end Transactional
